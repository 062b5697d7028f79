import Mathlib.Logic.Function.Basic
import TorusProxy.Lib.Shell

/-! The systemd installer (`install.sh`): the host it changes, its functions from
`prepare_backup` to the end of `main`, and the exit trap with its rollback. -/
namespace TorusProxy.Installer

open Shell Script

/-! ## The host -/

/-- The files the installer manages. -/
inductive File
  | binary | config | cert | key | service
  deriving DecidableEq, Repr

/-- `TORUS_TLS_DIR` and what is in it. -/
structure TlsDir (Content : Type) where
  cert : Option Content
  key : Option Content
  deriving DecidableEq, Repr

/-- `TORUS_HOME` and what is in it. -/
structure Home (Content : Type) where
  config : Option Content
  tls : Option (TlsDir Content)
  deriving DecidableEq, Repr

structure Host (Content : Type) where
  binary : Option Content
  service : Option Content
  home : Option (Home Content)
  enabled : Bool
  active : Bool
  user : Bool
  group : Bool
  deriving DecidableEq, Repr

/-- What one run of the installer is given, and what it will meet. -/
structure Inputs (Content : Type) where
  tlsEnabled : Bool
  /-- The build, `CONFIG_SOURCE`, `TLS_CERT_SOURCE`, `TLS_KEY_SOURCE` and `SERVICE_SOURCE`. -/
  source : File → Content
  /-- `userdel` takes the group of the user's name along (`USERGROUPS_ENAB`). -/
  usergroups : Bool
  /-- The new service has died by the time `verify_service` looks at it. -/
  crashed : Bool
  /-- The configured listener comes up. -/
  listening : Bool

/-- Whether the script installs the file with `-g torus`; the others go to root. -/
def File.ofTorus : File → Bool
  | .binary | .service => false
  | .config | .cert | .key => true

section
variable {Content : Type}

namespace Host

def tls (h : Host Content) : Option (TlsDir Content) := h.home.bind Home.tls

def read (h : Host Content) : File → Option Content
  | .binary => h.binary
  | .service => h.service
  | .config => h.home.bind Home.config
  | .cert => h.tls.bind TlsDir.cert
  | .key => h.tls.bind TlsDir.key

/-- The directory of the file exists. -/
def hasDir (h : Host Content) : File → Bool
  | .binary | .service => true
  | .config => h.home.isSome
  | .cert | .key => h.tls.isSome

def mapTls (h : Host Content) (f : TlsDir Content → TlsDir Content) : Host Content :=
  { h with home := h.home.map fun home => { home with tls := home.tls.map f } }

def put (h : Host Content) (file : File) (content : Option Content) : Host Content :=
  match file with
  | .binary => { h with binary := content }
  | .service => { h with service := content }
  | .config => { h with home := h.home.map fun home => { home with config := content } }
  | .cert => h.mapTls fun tls => { tls with cert := content }
  | .key => h.mapTls fun tls => { tls with key := content }

/-! ## Commands -/

/-- `install -g GROUP SOURCE FILE`. -/
def install (h : Host Content) (file : File) (content : Content) : Option (Host Content) :=
  if (!file.ofTorus || h.group) && h.hasDir file then some (h.put file (some content)) else none

/-- `rm -f FILE`. -/
def remove (h : Host Content) (file : File) : Option (Host Content) := some (h.put file none)

/-- A command with a group argument that changes nothing managed: `chown root:torus`,
and the copy to `torus.yaml.bak`. -/
def needsGroup (h : Host Content) : Option (Host Content) := if h.group then some h else none

def groupadd (h : Host Content) : Option (Host Content) :=
  if h.group then none else some { h with group := true }

def useradd (h : Host Content) : Option (Host Content) :=
  if h.group && !h.user then some { h with user := true } else none

def userdel (usergroups : Bool) (h : Host Content) : Option (Host Content) :=
  if h.user then some { h with user := false, group := h.group && !usergroups } else none

def groupdel (h : Host Content) : Option (Host Content) :=
  if h.group then some { h with group := false } else none

/-- `install -d -g torus TORUS_HOME`. -/
def installHome (h : Host Content) : Option (Host Content) :=
  if h.group then some { h with home := some { config := none, tls := none } } else none

/-- `install -d -g torus TORUS_TLS_DIR`. -/
def installTlsDir (h : Host Content) : Option (Host Content) :=
  match h.group, h.home with
  | true, some home => some { h with home := some { home with tls := some ⟨none, none⟩ } }
  | _, _ => none

/-- `rmdir TORUS_TLS_DIR`, of an empty directory only. -/
def rmdirTlsDir (h : Host Content) : Option (Host Content) :=
  match h.home with
  | some ⟨config, some ⟨none, none⟩⟩ => some { h with home := some ⟨config, none⟩ }
  | _ => none

def rmdirHome (h : Host Content) : Option (Host Content) :=
  match h.home with
  | some ⟨none, none⟩ => some { h with home := none }
  | _ => none

def systemctlStop (h : Host Content) : Option (Host Content) := some { h with active := false }

def systemctlEnable (h : Host Content) : Option (Host Content) :=
  if h.service.isSome then some { h with enabled := true } else none

def systemctlDisable (h : Host Content) : Option (Host Content) := some { h with enabled := false }

def systemctlRestart (h : Host Content) : Option (Host Content) :=
  if h.service.isSome then some { h with active := true } else none

end Host

/-! ## The installer -/

/-- The host and the variables of the script. -/
structure Session (Content : Type) where
  host : Host Content
  /-- `BACKUP_DIR`. -/
  backup : File → Option Content
  existing : File → Bool
  serviceWasActive : Bool
  serviceWasEnabled : Bool
  createdUser : Bool
  createdGroup : Bool
  createdHome : Bool
  createdTlsDir : Bool
  mutationStarted : Bool
  installSucceeded : Bool

def Session.new (h : Host Content) : Session Content where
  host := h
  backup := fun _ => none
  existing := fun _ => false
  serviceWasActive := false
  serviceWasEnabled := false
  createdUser := false
  createdGroup := false
  createdHome := false
  createdTlsDir := false
  mutationStarted := false
  installSucceeded := false

def onHost (command : Host Content → Option (Host Content)) (s : Session Content) :
    Option (Session Content) := (command s.host).map fun h => { s with host := h }

/-- A command that changes nothing managed: `log`, `mkdir` of the backup, `chmod`,
`systemctl daemon-reload`. -/
def idle : Script (Session Content) := .cmd some

abbrev log : Script (Session Content) := idle

def backupFile (file : File) : Script (Session Content) :=
  when (fun s => (s.host.read file).isSome)
    (recorded
      (fun s => some { s with backup := Function.update s.backup file (s.host.read file) })
      (fun s => { s with existing := Function.update s.existing file true }))

def serviceState : Script (Session Content) :=
  when (fun s => s.existing .service) (block [
    when (fun s => s.host.active) (.set fun s => { s with serviceWasActive := true }),
    when (fun s => s.host.enabled) (.set fun s => { s with serviceWasEnabled := true })])

def prepareBackup : Script (Session Content) :=
  block [idle, backupFile .binary, backupFile .config, backupFile .service, backupFile .cert,
    backupFile .key, serviceState]

def createGroup : Script (Session Content) :=
  .ite (fun s => s.host.group) log (block [log,
    recorded (onHost Host.groupadd) (fun s => { s with createdGroup := true })])

def createUser : Script (Session Content) :=
  .ite (fun s => s.host.user) log (block [log,
    recorded (onHost Host.useradd) (fun s => { s with createdUser := true })])

def createUserGroup : Script (Session Content) := block [createGroup, createUser]

def prepareHome : Script (Session Content) :=
  .ite (fun s => !s.host.home.isSome)
    (recorded (onHost Host.installHome) (fun s => { s with createdHome := true }))
    (block [.cmd (onHost Host.needsGroup), idle])

def prepareTlsDir : Script (Session Content) :=
  .ite (fun s => !s.host.tls.isSome)
    (recorded (onHost Host.installTlsDir) (fun s => { s with createdTlsDir := true }))
    (block [.cmd (onHost Host.needsGroup), idle])

def prepareDirectories (inputs : Inputs Content) : Script (Session Content) :=
  block [log, prepareHome, when (fun _ => inputs.tlsEnabled) prepareTlsDir]

def backupVisibleConfig : Script (Session Content) :=
  when (fun s => s.existing .config) (block [log, .cmd (onHost Host.needsGroup), log])

def installFile (inputs : Inputs Content) (file : File) : Script (Session Content) :=
  .cmd (onHost fun h => h.install file (inputs.source file))

def installFiles (inputs : Inputs Content) : Script (Session Content) :=
  block [log, installFile inputs .binary, backupVisibleConfig, log, installFile inputs .config,
    when (fun _ => inputs.tlsEnabled)
      (block [log, installFile inputs .cert, log, installFile inputs .key]),
    log, installFile inputs .service]

def activateService : Script (Session Content) :=
  block [log, idle, log, .cmd (onHost Host.systemctlEnable), log,
    .cmd (onHost Host.systemctlRestart)]

/-- The service may have died since it was started; `wait_for_service` and
`wait_for_listener` give up with `error`. -/
def verifyService (inputs : Inputs Content) : Script (Session Content) :=
  block [log,
    .set (fun s => { s with host.active := s.host.active && !inputs.crashed }),
    .cmd (fun s => if s.host.active then some s else none), log, log,
    .cmd (fun s => if inputs.listening then some s else none), log]

def printSuccess : Script (Session Content) := log

/-- `main` from `prepare_backup` on; what is before changes nothing managed. -/
def main (inputs : Inputs Content) : Script (Session Content) :=
  block [prepareBackup,
    .set (fun s => { s with mutationStarted := true }),
    createUserGroup, prepareDirectories inputs, installFiles inputs, activateService,
    verifyService inputs,
    .set (fun s => { s with installSucceeded := true }),
    printSuccess]

/-! ## The exit trap -/

def restoreFile (file : File) : Script (Session Content) :=
  .ite (fun s => s.existing file && (s.backup file).isSome)
    (.cmd fun s => (s.backup file).bind fun content => onHost (fun h => h.install file content) s)
    (.cmd (onHost fun h => h.remove file))

def restoreServiceState : Script (Session Content) :=
  .ite (fun s => s.existing .service)
    (block [
      .ite (fun s => s.serviceWasEnabled) (orTrue (onHost Host.systemctlEnable))
        (orTrue (onHost Host.systemctlDisable)),
      when (fun s => s.serviceWasActive) (orTrue (onHost Host.systemctlRestart))])
    (orTrue (onHost Host.systemctlDisable))

def rollback (inputs : Inputs Content) : Script (Session Content) :=
  .ite (fun s => !s.mutationStarted || s.installSucceeded) .skip (block [
    log,
    orTrue (onHost Host.systemctlStop),
    restoreFile .binary, restoreFile .config, restoreFile .cert, restoreFile .key,
    restoreFile .service,
    orTrue some,
    restoreServiceState,
    when (fun s => s.createdTlsDir) (orTrue (onHost Host.rmdirTlsDir)),
    when (fun s => s.createdHome) (orTrue (onHost Host.rmdirHome)),
    when (fun s => s.createdUser) (orTrue (onHost (Host.userdel inputs.usergroups))),
    when (fun s => s.createdGroup) (orTrue (onHost Host.groupdel)),
    log])

def cleanupTmp : Script (Session Content) := .cmd fun s => some { s with backup := fun _ => none }

/-- The trap, after a failure or after success. `set -e` holds in it too. -/
def onExit (inputs : Inputs Content) (failed : Bool) : Script (Session Content) :=
  block [when (fun _ => failed) (rollback inputs), cleanupTmp]

end
end TorusProxy.Installer
