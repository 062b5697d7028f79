import TorusProxy.Rewrite
import TorusProxy.Lib.ShellText

/-! What the installer learns of a configuration: the inspector, a Go program that it
builds for itself, and `inspect_config`, which reads what the inspector prints. -/
namespace TorusProxy.Installer

open Shell

/-! ## The inspector -/

namespace Inspector

/-- What the inspector declares of the configuration. -/
structure Config where
  server : ServerConfig
  tls : Option TlsConfig
  deriving DecidableEq, Repr

/-- The functions it calls and does not define; `addrError` is what `net.SplitHostPort`
says of an address it rejects. -/
structure Env where
  unmarshal : Bytes → Except String Config
  addrError : String → String
  isPrint : Char → Bool

/-- The values of the lines it prints. -/
structure Metadata where
  serverAddr : Bytes
  host : Bytes
  port : Bytes
  tlsEnabled : Bool
  tlsCertFile : Bytes
  tlsKeyFile : Bytes
  deriving DecidableEq, Repr

/-- `main` from the TLS section on. -/
def examineTls (addr host port : Bytes) : Option TlsConfig → Except String Metadata
  | none => .ok ⟨addr, host, port, false, [], []⟩
  | some t =>
    if t.certFile = "" then .error "tls.cert_file must not be empty"
    else if t.keyFile = "" then .error "tls.key_file must not be empty"
    else .ok ⟨addr, host, port, true, bytes t.certFile, bytes t.keyFile⟩

/-- `main` on a configuration that was decoded. -/
def examine (env : Env) (cfg : Config) : Except String Metadata :=
  let addr := cfg.server.addr
  if addr = "" then .error "server.addr must not be empty"
  else
    match splitHostPort (bytes addr) with
    | none =>
      .error ("invalid server.addr " ++ quote env.isPrint addr ++ ": " ++ env.addrError addr)
    | some (host, port) =>
      if port = [] then .error "server.addr port must not be empty"
      else examineTls (bytes addr) (if host = [] then bytes "127.0.0.1" else host) port cfg.tls

/-- `main` as far as its last lines, which print; the errors go to `stderr`. -/
def inspect (env : Env) (file : Except String Bytes) : Except String Metadata :=
  match file with
  | .error err => .error ("read config: " ++ err)
  | .ok data =>
    match env.unmarshal data with
    | .error err => .error ("parse config: " ++ err)
    | .ok cfg => examine env cfg

/-- The lines and what they are called. -/
def Metadata.pairs (m : Metadata) : List (Bytes × Bytes) :=
  [(bytes "server_addr", m.serverAddr), (bytes "host", m.host), (bytes "port", m.port),
    (bytes "tls_enabled", bytes (if m.tlsEnabled then "true" else "false")),
    (bytes "tls_cert_file", m.tlsCertFile), (bytes "tls_key_file", m.tlsKeyFile)]

def main (env : Env) (file : Except String Bytes) : Except String Bytes :=
  (inspect env file).map fun m => printPairs 61 m.pairs

end Inspector

/-! ## What the script reads -/

/-- The variables `inspect_config` assigns; two of them are unset before. -/
structure Variables where
  serverAddr : Bytes
  serverHost : Option Bytes
  serverPort : Option Bytes
  tlsEnabled : Bytes
  configTlsCertFile : Bytes
  configTlsKeyFile : Bytes
  deriving DecidableEq, Repr

def Variables.initial : Variables := ⟨[], none, none, bytes "false", [], []⟩

/-- The `case` of the loop. -/
def Variables.assign (v : Variables) (p : Bytes × Bytes) : Variables :=
  if p.1 = bytes "server_addr" then { v with serverAddr := p.2 }
  else if p.1 = bytes "host" then { v with serverHost := some p.2 }
  else if p.1 = bytes "port" then { v with serverPort := some p.2 }
  else if p.1 = bytes "tls_enabled" then { v with tlsEnabled := p.2 }
  else if p.1 = bytes "tls_cert_file" then { v with configTlsCertFile := p.2 }
  else if p.1 = bytes "tls_key_file" then { v with configTlsKeyFile := p.2 }
  else v

/-- `inspect_config`, on what the inspector comes to. -/
def inspectConfig (output : Except String Bytes) : Except String Variables :=
  match output with
  | .error _ => .error "Invalid Torus configuration."
  | .ok metadata => .ok ((readPairs 61 metadata).foldl Variables.assign .initial)

/-- The variables as they are meant. -/
def Inspector.Metadata.vars (m : Inspector.Metadata) : Variables where
  serverAddr := m.serverAddr
  serverHost := some m.host
  serverPort := some m.port
  tlsEnabled := bytes (if m.tlsEnabled then "true" else "false")
  configTlsCertFile := m.tlsCertFile
  configTlsKeyFile := m.tlsKeyFile

/-- The texts of the configuration among what is printed. -/
def Inspector.Metadata.texts (m : Inspector.Metadata) : List Bytes :=
  [m.serverAddr, m.host, m.port, m.tlsCertFile, m.tlsKeyFile]

/-! ## Reading back -/

/-- Everything that was read was read from one line. -/
structure Variables.Survive (v : Variables) : Prop where
  serverAddr : Survives 61 v.serverAddr
  serverHost : ∀ host, v.serverHost = some host → Survives 61 host
  serverPort : ∀ port, v.serverPort = some port → Survives 61 port
  configTlsCertFile : Survives 61 v.configTlsCertFile
  configTlsKeyFile : Survives 61 v.configTlsKeyFile

theorem nil_survives : Survives 61 [] := ⟨⟨by simp, by simp⟩, rfl⟩

theorem Variables.initial_survive : Variables.initial.Survive where
  serverAddr := nil_survives
  serverHost := by intro host unset; cases unset
  serverPort := by intro port unset; cases unset
  configTlsCertFile := nil_survives
  configTlsKeyFile := nil_survives

theorem Variables.Survive.assign {v : Variables} (h : v.Survive) {p : Bytes × Bytes}
    (one : Survives 61 p.2) : (v.assign p).Survive := by
  obtain ⟨addr, host, port, cert, key⟩ := h
  unfold Variables.assign
  split
  · exact ⟨one, host, port, cert, key⟩
  split
  · exact ⟨addr, fun _ same => Option.some.inj same ▸ one, port, cert, key⟩
  split
  · exact ⟨addr, host, fun _ same => Option.some.inj same ▸ one, cert, key⟩
  split
  · exact ⟨addr, host, port, cert, key⟩
  split
  · exact ⟨addr, host, port, one, key⟩
  split
  · exact ⟨addr, host, port, cert, one⟩
  · exact ⟨addr, host, port, cert, key⟩

theorem Variables.Survive.assigns {v : Variables} (h : v.Survive) {pairs : List (Bytes × Bytes)}
    (one : ∀ p ∈ pairs, Survives 61 p.2) : (pairs.foldl Variables.assign v).Survive := by
  induction pairs generalizing v with
  | nil => exact h
  | cons p rest ih =>
    exact ih (h.assign (one p List.mem_cons_self)) fun q mem => one q (List.mem_cons_of_mem _ mem)

theorem inspectConfig_survive {output : Except String Bytes} {v : Variables}
    (h : inspectConfig output = .ok v) : v.Survive := by
  cases output with
  | error => cases h
  | ok metadata =>
    cases h
    exact Variables.initial_survive.assigns fun p mem => readPairs_survive mem

section
variable (v : Variables) (value : Bytes)

@[simp] theorem assign_serverAddr :
    v.assign (bytes "server_addr", value) = { v with serverAddr := value } := rfl

@[simp] theorem assign_host :
    v.assign (bytes "host", value) = { v with serverHost := some value } := rfl

@[simp] theorem assign_port :
    v.assign (bytes "port", value) = { v with serverPort := some value } := rfl

@[simp] theorem assign_tlsEnabled :
    v.assign (bytes "tls_enabled", value) = { v with tlsEnabled := value } := rfl

@[simp] theorem assign_tlsCertFile :
    v.assign (bytes "tls_cert_file", value) = { v with configTlsCertFile := value } := rfl

@[simp] theorem assign_tlsKeyFile :
    v.assign (bytes "tls_key_file", value) = { v with configTlsKeyFile := value } := rfl

end

namespace Inspector.Metadata

theorem tlsEnabled_survives (m : Metadata) :
    Survives 61 (bytes (if m.tlsEnabled then "true" else "false")) := by
  cases m.tlsEnabled with
  | true => exact ⟨⟨by decide, by decide⟩, by decide⟩
  | false => exact ⟨⟨by decide, by decide⟩, by decide⟩

theorem prints_of_name {name value : Bytes}
    (plain : (!name.contains 0 && !name.contains 10 && !name.contains 61) = true)
    (one : OneLine value) : Prints 61 (name, value) := by
  simp only [Bool.and_eq_true, Bool.not_eq_true', List.contains_eq_mem, decide_eq_false_iff_not]
    at plain
  exact ⟨⟨plain.1.1, plain.1.2⟩, plain.2, one⟩

theorem pairs_print (m : Metadata) (one : ∀ text ∈ m.texts, OneLine text) :
    ∀ p ∈ m.pairs, Prints 61 p := by
  simp only [texts, List.forall_mem_cons] at one
  obtain ⟨addr, host, port, cert, key, -⟩ := one
  simp only [pairs, List.forall_mem_cons]
  exact ⟨prints_of_name (by decide) addr, prints_of_name (by decide) host,
    prints_of_name (by decide) port, prints_of_name (by decide) m.tlsEnabled_survives.toOneLine,
    prints_of_name (by decide) cert, prints_of_name (by decide) key, by simp⟩

/-- Texts that survive are read as they were printed. -/
theorem reads_vars (m : Metadata) (survive : ∀ text ∈ m.texts, Survives 61 text) :
    (readPairs 61 (printPairs 61 m.pairs)).foldl Variables.assign .initial = m.vars := by
  have prints := m.pairs_print fun text mem => (survive text mem).toOneLine
  have some_ : m.pairs ≠ [] := List.cons_ne_nil _ _
  rw [readPairs_print some_ prints (by decide) (by decide)]
  simp only [texts, List.forall_mem_cons] at survive
  obtain ⟨addr, host, port, cert, key, -⟩ := survive
  simp [pairs, vars, addr.last, host.last, port.last, cert.last, key.last,
    m.tlsEnabled_survives.last]

theorem texts_survive {m : Metadata} (h : m.vars.Survive) :
    ∀ text ∈ m.texts, Survives 61 text := by
  simp only [texts, List.forall_mem_cons]
  exact ⟨h.serverAddr, h.serverHost _ rfl, h.serverPort _ rfl, h.configTlsCertFile,
    h.configTlsKeyFile, by simp⟩

end Inspector.Metadata

/-- **The inspection.** The script reads what the inspector meant if and only if each of
the five texts is one line and does not end in its only equals sign. -/
theorem inspectConfig_exact {env : Inspector.Env} {file : Except String Bytes}
    {m : Inspector.Metadata} (inspected : Inspector.inspect env file = .ok m) :
    inspectConfig (Inspector.main env file) = .ok m.vars ↔
      ∀ text ∈ m.texts, Survives 61 text := by
  have printed : Inspector.main env file = .ok (printPairs 61 m.pairs) := by
    rw [Inspector.main, inspected]
    rfl
  rw [printed]
  constructor
  · intro read
    exact Inspector.Metadata.texts_survive (inspectConfig_survive read)
  · intro survive
    exact congrArg Except.ok (m.reads_vars survive)

/-- An inspector that decodes any file to this. -/
def sampleInspector (certFile : String) : Inspector.Env where
  unmarshal := fun _ => .ok ⟨⟨":8443"⟩, some ⟨certFile, "/etc/torus/tls/key.pem", "1.3"⟩⟩
  addrError := fun _ => ""
  isPrint := fun _ => true

/-- The path of the certificate is read, and it is not with an equals sign behind it. -/
theorem inspectConfig_exact_cert :
    let file : Except String Bytes := .ok []
    let m (certFile : Bytes) : Inspector.Metadata :=
      ⟨bytes ":8443", bytes "127.0.0.1", bytes "8443", true, certFile,
        bytes "/etc/torus/tls/key.pem"⟩
    inspectConfig (Inspector.main (sampleInspector "/etc/torus/tls/cert.pem") file) =
        .ok (m (bytes "/etc/torus/tls/cert.pem")).vars ∧
      inspectConfig (Inspector.main (sampleInspector "/etc/torus/tls/cert.pem=") file) ≠
        .ok (m (bytes "/etc/torus/tls/cert.pem=")).vars := by
  constructor
  · exact (inspectConfig_exact rfl).mpr (by decide)
  · intro read
    have survive := (inspectConfig_exact rfl).mp read (bytes "/etc/torus/tls/cert.pem=")
      (by decide)
    exact absurd survive (by decide)

end TorusProxy.Installer
