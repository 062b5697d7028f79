import TorusProxy.GoLib

/-! `internal/config`: the configuration schema, its validation and loading.
The YAML decoder, the URL parsers and the key-pair loader are the caller's. -/
namespace TorusProxy

structure ServerConfig where
  addr : String
  deriving DecidableEq, Repr

structure HealthCheckConfig where
  intervalMs : Int
  timeoutMs : Int
  path : String
  deriving DecidableEq, Repr

structure ServiceConfig where
  name : String
  upstreams : List String
  deriving DecidableEq, Repr

structure RouteConfig where
  path : String
  service : String
  deriving DecidableEq, Repr

structure TlsConfig where
  certFile : String
  keyFile : String
  minVersion : String
  deriving DecidableEq, Repr

structure ObservabilityConfig where
  enabled : Option Bool
  deriving DecidableEq, Repr

structure Config where
  apiVersion : String
  server : ServerConfig
  healthCheck : HealthCheckConfig
  services : List ServiceConfig
  routes : List RouteConfig
  tls : Option TlsConfig
  observability : ObservabilityConfig
  deriving DecidableEq, Repr

def currentAPIVersion : String := "v2"

def ObservabilityConfig.enabledValue (c : ObservabilityConfig) : Bool := c.enabled.getD true

/-- The product `time.Duration(ms) * time.Millisecond` in 64-bit arithmetic. -/
def milliseconds (ms : Int) : Int := (ms * 1000000).bmod (2 ^ 64)

def HealthCheckConfig.interval (h : HealthCheckConfig) : Int := milliseconds h.intervalMs

def HealthCheckConfig.timeout (h : HealthCheckConfig) : Int := milliseconds h.timeoutMs

/-- An X.509 key pair; only its identity is used. -/
structure Certificate where
  id : Nat
  deriving DecidableEq, Repr

inductive TLSVersion
  | tls12
  | tls13
  deriving DecidableEq, Repr

/-- What `LoadTlsConfig` puts into a `tls.Config`. -/
structure TLSSettings where
  certificate : Certificate
  minVersion : TLSVersion
  deriving DecidableEq, Repr

/-- The functions this program calls and does not define. -/
structure Env where
  unmarshal : Bytes → Except String Config
  parseRequestURI : String → Except String URL
  parse : String → Except String URL
  isPrint : Char → Bool

/-- What the program reads from the file system. -/
structure Disk where
  config : Except String Bytes
  keyPair : String → String → Except String Certificate

variable (env : Env)

/-- One upstream of `Validate`; `at_` is the position the messages name. -/
def validateUpstream (at_ : String) (upstream : String) : Except String Unit :=
  if trimSpace upstream = "" then .error (at_ ++ " must not be empty")
  else
    match env.parseRequestURI upstream with
    | .error err => .error (at_ ++ ": invalid URL: " ++ err)
    | .ok u =>
      if u.scheme ≠ "http" ∧ u.scheme ≠ "https" then
        .error (at_ ++ ": unsupported URL scheme " ++ quote env.isPrint u.scheme)
      else if u.hostname = "" then .error (at_ ++ ": missing host")
      else if u.port = "" then .error (at_ ++ ": missing port")
      else
        match atoi u.port with
        | none => .error (at_ ++ ": invalid port " ++ quote env.isPrint u.port)
        | some n =>
          if n < 1 ∨ 65535 < n then .error (at_ ++ ": port " ++ toString n ++ " out of range")
          else .ok ()

/-- The inner loop of the services section, from the `j`-th upstream on. -/
def validateUpstreams (i : Nat) : Nat → List String → Except String Unit
  | _, [] => .ok ()
  | j, upstream :: rest => do
    validateUpstream env
      ("services[" ++ toString i ++ "].upstreams[" ++ toString j ++ "]") upstream
    validateUpstreams i (j + 1) rest

/-- The services section from the `i`-th service on; the result is the set
of names seen. -/
def validateServices : Nat → List String → List ServiceConfig → Except String (List String)
  | _, seen, [] => .ok seen
  | i, seen, svc :: rest => do
    let name := trimSpace svc.name
    if name = "" then
      throw ("services[" ++ toString i ++ "].name must not be empty")
    if name ∈ seen then
      throw ("duplicate service name " ++ quote env.isPrint name)
    if svc.upstreams.isEmpty then
      throw ("services[" ++ toString i ++ "].upstreams must contain at least one upstream")
    validateUpstreams env i 0 svc.upstreams
    validateServices (i + 1) (name :: seen) rest

/-- The routes section from the `i`-th route on. -/
def validateRoutes (services : List String) :
    Nat → List String → List RouteConfig → Except String Unit
  | _, _, [] => .ok ()
  | i, seen, route :: rest => do
    if trimSpace route.path = "" then
      throw ("routes[" ++ toString i ++ "].path must not be empty")
    if route.path ∈ seen then
      throw ("duplicate route path " ++ quote env.isPrint route.path)
    let name := trimSpace route.service
    if name = "" then
      throw ("routes[" ++ toString i ++ "].service must not be empty")
    if name ∉ services then
      throw ("routes[" ++ toString i ++ "].service " ++ quote env.isPrint name ++
        " does not exist")
    validateRoutes services (i + 1) (route.path :: seen) rest

def validateTls : Option TlsConfig → Except String Unit
  | none => .ok ()
  | some t =>
    if trimSpace t.certFile = "" then .error "tls.cert_file must not be empty"
    else if trimSpace t.keyFile = "" then .error "tls.key_file must not be empty"
    else if t.minVersion = "" ∨ t.minVersion = "1.2" ∨ t.minVersion = "1.3" then .ok ()
    else .error "tls.min_version must be one of: 1.2, 1.3"

def Config.validate (c : Config) : Except String Unit := do
  if trimSpace c.server.addr = "" then
    throw "server.addr must not be empty"
  if c.healthCheck.intervalMs ≤ 0 then
    throw "health.interval_ms must be greater than 0"
  if c.healthCheck.timeoutMs ≤ 0 then
    throw "health.timeout_ms must be greater than 0"
  if c.healthCheck.intervalMs < c.healthCheck.timeoutMs then
    throw "health.timeout_ms cannot be greater than health.interval_ms"
  if trimSpace c.healthCheck.path = "" then
    throw "health.path must not be empty"
  if !hasPrefix c.healthCheck.path "/" then
    throw "health.path must start with '/'"
  if c.services.isEmpty then
    throw "at least one service must be configured"
  let seen ← validateServices env 0 [] c.services
  if c.routes.isEmpty then
    throw "at least one route must be configured"
  validateRoutes env seen 0 [] c.routes
  validateTls c.tls

/-- `TlsConfig.LoadTlsConfig`; a missing section gives no TLS. -/
def loadTlsConfig (disk : Disk) : Option TlsConfig → Except String (Option TLSSettings)
  | none => .ok none
  | some t =>
    match disk.keyPair t.certFile t.keyFile with
    | .error err => .error err
    | .ok cert =>
      if t.minVersion = "" ∨ t.minVersion = "1.2" then .ok (some ⟨cert, .tls12⟩)
      else if t.minVersion = "1.3" then .ok (some ⟨cert, .tls13⟩)
      else .error ("unsupported or invalid TLS version: " ++ t.minVersion ++
        " (only 1.2 and 1.3 are allowed)")

/-- `LoadConfig` on the outcome of reading the file. -/
def loadConfig (file : Except String Bytes) : Except String Config :=
  match file with
  | .error err => .error err
  | .ok content =>
    match env.unmarshal content with
    | .error err => .error err
    | .ok config =>
      if config.apiVersion = currentAPIVersion then
        match config.validate env with
        | .error err => .error err
        | .ok () => .ok config
      else
        .error ("unsupported config api version " ++ quote env.isPrint config.apiVersion ++
          " (expected " ++ quote env.isPrint currentAPIVersion ++ ")")

end TorusProxy
