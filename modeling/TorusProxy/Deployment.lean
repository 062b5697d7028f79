import TorusProxy.Inspection
import TorusProxy.Resolution
import TorusProxy.Upgrade

/-! The installer before `prepare_backup`, and what a deployment that came to its end
lets the proxy load. -/
namespace TorusProxy.Installer

open Shell Script

/-! ## Paths -/

/-- Where the file is installed. -/
def File.path : File → String
  | .binary => "/usr/local/bin/torus"
  | .config => "/etc/torus/torus.yaml"
  | .cert => "/etc/torus/tls/cert.pem"
  | .key => "/etc/torus/tls/key.pem"
  | .service => "/etc/systemd/system/torus.service"

def noSuchFile (path : String) : String := "open " ++ path ++ ": no such file or directory"

/-- What the installer finds. -/
structure Machine where
  /-- Root, on Linux with systemd, `curl`, `ss` and a Go that builds the inspector. -/
  ready : Bool
  /-- The regular files. -/
  files : String → Option Bytes
  /-- `realpath -e`. -/
  realpath : String → Option String
  realpath_files : ∀ path real, realpath path = some real → files real = files path
  openssl : Bool
  /-- `openssl x509` reads a certificate, `openssl pkey` a private key. -/
  isCertificate : Bytes → Bool
  isKey : Bytes → Bool
  /-- The digests of the public keys in them. -/
  certPublicKey : Bytes → Option Bytes
  keyPublicKey : Bytes → Option Bytes
  /-- `SERVICE_SOURCE`. -/
  serviceSource : String
  /-- What `go build` makes of `./cmd/torus`. -/
  torus : Option Bytes
  usergroups : Bool
  crashed : Bool
  /-- `ss` comes to find a listener on the port. -/
  listens : Bytes → Bool

def Machine.readFile (machine : Machine) (path : String) : Except String Bytes :=
  match machine.files path with
  | some content => .ok content
  | none => .error (noSuchFile path)

/-! ## Up to the build

Where a command fails and the script has no text for it, the error is empty. -/

section
variable (machine : Machine)

/-- A line as `read -r` sets one variable to it. -/
def answer (line : String) : String :=
  let blank (c : Char) : Bool := c == ' ' || c == Char.ofNat 9
  String.ofList ((line.toList.dropWhile blank).reverse.dropWhile blank).reverse

/-- The loop of `select_config` and the two of `select_tls_files`, and the lines that they
leave. -/
def selectFile : List String → Except String (String × List String)
  | [] => .error ""
  | line :: rest =>
    let path := answer line
    if path = "" then selectFile rest
    else if (machine.files path).isSome then
      match machine.realpath path with
      | some real => .ok (real, rest)
      | none => .error ""
    else selectFile rest

def selectConfig (lines : List String) : Except String (String × List String) :=
  selectFile machine lines

def selectTlsFiles (v : Variables) (lines : List String) : Except String (String × String) :=
  if v.tlsEnabled ≠ bytes "true" then .ok ("", "")
  else do
    let cert ← selectFile machine lines
    let key ← selectFile machine cert.2
    .ok (cert.1, key.1)

/-- `validate_tls` as far as the two public keys. -/
def publicKeys (certSource keySource : String) : Except String (Bytes × Bytes) := do
  let cert := machine.files certSource
  let key := machine.files keySource
  if !cert.any machine.isCertificate then throw ("Invalid TLS certificate: " ++ certSource)
  if !key.any machine.isKey then
    throw ("Invalid or unsupported TLS private key: " ++ keySource)
  match cert.bind machine.certPublicKey, key.bind machine.keyPublicKey with
  | some certKey, some keyKey => .ok (certKey, keyKey)
  | _, _ => .error ""

def validateTls (v : Variables) (certSource keySource : String) : Except String Unit :=
  if v.tlsEnabled ≠ bytes "true" then .ok ()
  else if !machine.openssl then .error "openssl is required for TLS installation."
  else do
    let keys ← publicKeys machine certSource keySource
    if keys.1 ≠ keys.2 then throw "TLS certificate and private key do not match."
    if v.configTlsCertFile ≠ bytes File.cert.path then
      throw ("Configuration tls.cert_file must be '" ++ File.cert.path ++
        "' for systemd deployment.")
    if v.configTlsKeyFile ≠ bytes File.key.path then
      throw ("Configuration tls.key_file must be '" ++ File.key.path ++
        "' for systemd deployment.")
    .ok ()

def validateInputs (v : Variables) (certSource keySource : String) : Except String Unit :=
  if !(machine.files machine.serviceSource).isSome then
    .error ("systemd service file not found: " ++ machine.serviceSource)
  else validateTls machine v certSource keySource

def buildTorus : Except String Bytes :=
  match machine.torus with
  | some binary => .ok binary
  | none => .error ""

/-- The variables when `prepare_backup` starts. -/
structure Prepared where
  configSource : String
  certSource : String
  keySource : String
  vars : Variables
  binary : Bytes

/-- `main` up to `build_torus`. -/
def prepare (env : Inspector.Env) (lines : List String) : Except String Prepared := do
  if !machine.ready then throw ""
  let config ← selectConfig machine lines
  let v ← inspectConfig (Inspector.main env (machine.readFile config.1))
  let tls ← selectTlsFiles machine v config.2
  validateInputs machine v tls.1 tls.2
  let binary ← buildTorus machine
  .ok ⟨config.1, tls.1, tls.2, v, binary⟩

/-- What the rest of `main` is given. -/
def Prepared.inputs (p : Prepared) : Inputs Bytes where
  tlsEnabled := p.vars.tlsEnabled == bytes "true"
  source
    | .binary => p.binary
    | .config => (machine.files p.configSource).getD []
    | .cert => (machine.files p.certSource).getD []
    | .key => (machine.files p.keySource).getD []
    | .service => (machine.files machine.serviceSource).getD []
  usergroups := machine.usergroups
  crashed := machine.crashed
  listening := (p.vars.serverPort.map machine.listens).getD false

end

/-! ## The proxy on the host -/

/-- The files of the host, among others it has. -/
def Host.contents (h : Host Bytes) (others : String → Option Bytes) (path : String) :
    Option Bytes :=
  match [File.binary, .config, .cert, .key, .service].find? (·.path == path) with
  | some file => h.read file
  | none => others path

/-- What the unit's `ExecStart` has the proxy read; the parameter is `tls.X509KeyPair`. -/
def Host.disk (h : Host Bytes) (others : String → Option Bytes)
    (x509KeyPair : Bytes → Bytes → Except String Certificate) : Disk where
  config :=
    match h.contents others File.config.path with
    | some content => .ok content
    | none => .error (noSuchFile File.config.path)
  keyPair certFile keyFile :=
    match h.contents others certFile, h.contents others keyFile with
    | some cert, some key => x509KeyPair cert key
    | none, _ => .error (noSuchFile certFile)
    | some _, none => .error (noSuchFile keyFile)

/-! ## What was checked -/

section
variable {machine : Machine}

/-- The TLS files of an installation that may go on. -/
structure TlsChecked (machine : Machine) (p : Prepared) (cert key : Bytes) : Prop where
  certSource : machine.files p.certSource = some cert
  keySource : machine.files p.keySource = some key
  match_ : ∃ publicKey, machine.certPublicKey cert = some publicKey ∧
    machine.keyPublicKey key = some publicKey
  certFile : p.vars.configTlsCertFile = bytes File.cert.path
  keyFile : p.vars.configTlsKeyFile = bytes File.key.path

theorem publicKeys_ok {certSource keySource : String} {keys : Bytes × Bytes}
    (h : publicKeys machine certSource keySource = .ok keys) :
    ∃ cert key, machine.files certSource = some cert ∧ machine.files keySource = some key ∧
      machine.certPublicKey cert = some keys.1 ∧ machine.keyPublicKey key = some keys.2 := by
  simp only [publicKeys, throw_bind, guard_ok] at h
  obtain ⟨-, -, h⟩ := h
  split at h
  · rename_i certKey keyKey hasCert hasKey
    cases h
    obtain ⟨cert, certThere, certKey⟩ := Option.bind_eq_some_iff.mp hasCert
    obtain ⟨key, keyThere, keyKey⟩ := Option.bind_eq_some_iff.mp hasKey
    exact ⟨cert, key, certThere, keyThere, certKey, keyKey⟩
  · cases h

theorem validateTls_ok {p : Prepared} (enabled : p.vars.tlsEnabled = bytes "true")
    (h : validateTls machine p.vars p.certSource p.keySource = .ok ()) :
    ∃ cert key, TlsChecked machine p cert key := by
  rw [validateTls, if_neg (not_not_intro enabled), guard_ok, bind_ok] at h
  obtain ⟨-, keys, found, h⟩ := h
  simp only [throw_bind, guard_ok, not_not] at h
  obtain ⟨same, certFile, keyFile, -⟩ := h
  obtain ⟨cert, key, certThere, keyThere, certKey, keyKey⟩ := publicKeys_ok found
  exact ⟨cert, key, certThere, keyThere, ⟨keys.1, certKey, same ▸ keyKey⟩, certFile, keyFile⟩

/-- What is behind `prepare`. -/
structure Prepares (env : Inspector.Env) (machine : Machine) (p : Prepared) (data : Bytes) :
    Prop where
  configSource : machine.files p.configSource = some data
  inspected : inspectConfig (Inspector.main env (.ok data)) = .ok p.vars
  tls : p.vars.tlsEnabled = bytes "true" → ∃ cert key, TlsChecked machine p cert key

/-- What the inspector printed, and the script read. -/
theorem inspectConfig_ok {output : Except String Bytes} {v : Variables}
    (h : inspectConfig output = .ok v) :
    ∃ metadata, output = .ok metadata ∧ v = (readPairs 61 metadata).foldl .assign .initial := by
  cases output with
  | error => cases h
  | ok metadata =>
    cases h
    exact ⟨metadata, rfl, rfl⟩

namespace Inspector

theorem main_ok {env : Env} {file : Except String Bytes} {output : Bytes}
    (h : main env file = .ok output) :
    ∃ m, inspect env file = .ok m ∧ output = printPairs 61 m.pairs := by
  unfold main at h
  cases found : inspect env file with
  | error => rw [found] at h; cases h
  | ok m =>
    rw [found] at h
    cases h
    exact ⟨m, rfl, rfl⟩

/-- The metadata of a configuration. -/
structure Describes (m : Metadata) (cfg : Config) : Prop where
  serverAddr : m.serverAddr = bytes cfg.server.addr
  port : ∃ host, splitHostPort (bytes cfg.server.addr) = some (host, m.port)
  tlsEnabled : m.tlsEnabled = cfg.tls.isSome
  files : ∀ t, cfg.tls = some t →
    m.tlsCertFile = bytes t.certFile ∧ m.tlsKeyFile = bytes t.keyFile
  bare : cfg.tls = none → m.tlsCertFile = [] ∧ m.tlsKeyFile = []

theorem examine_ok {env : Env} {cfg : Config} {m : Metadata} (h : examine env cfg = .ok m) :
    Describes m cfg := by
  simp only [examine, guard_ok] at h
  obtain ⟨-, h⟩ := h
  split at h
  · cases h
  rename_i host port split_
  simp only [guard_ok] at h
  obtain ⟨-, h⟩ := h
  unfold examineTls at h
  split at h
  · rename_i off
    cases h
    exact ⟨rfl, ⟨host, split_⟩, by simp [off], by simp [off], fun _ => ⟨rfl, rfl⟩⟩
  · rename_i t on
    simp only [guard_ok] at h
    obtain ⟨-, -, ⟨⟩⟩ := h
    refine ⟨rfl, ⟨host, split_⟩, by simp [on], ?_, by simp [on]⟩
    intro t' same
    cases on.symm.trans same
    exact ⟨rfl, rfl⟩

end Inspector

/-- The script's variables, of a configuration that was decoded. -/
theorem Prepares.metadata {env : Inspector.Env} {p : Prepared} {data : Bytes}
    (h : Prepares env machine p data) {cfg : Inspector.Config}
    (decoded : env.unmarshal data = .ok cfg) :
    ∃ m, Inspector.Describes m cfg ∧
      p.vars = (readPairs 61 (printPairs 61 m.pairs)).foldl .assign .initial := by
  obtain ⟨output, printed, read⟩ := inspectConfig_ok h.inspected
  obtain ⟨m, inspected, rfl⟩ := Inspector.main_ok printed
  simp only [Inspector.inspect, decoded] at inspected
  exact ⟨m, Inspector.examine_ok inspected, read⟩

/-! ## What is deployed -/

end

end TorusProxy.Installer
