import TorusProxy.Reload
import TorusProxy.Prober

/-! `reload.Manager.Reload`: load the configuration, build a runtime, offer it
to the server, and retire it when the server refuses. -/
namespace TorusProxy

/-- One loop body of `BuildRuntime`: a backend of a service, the end of a
service, or a route. -/
inductive BuildItem
  | upstream (service url : String)
  | service (name : String)
  | route (path service : String)
  deriving DecidableEq, Repr

/-- The loop bodies of `BuildRuntime` in the order they run. -/
def buildPlan (cfg : Config) : List BuildItem :=
  cfg.services.flatMap (fun s => s.upstreams.map (.upstream s.name) ++ [.service s.name]) ++
    cfg.routes.map (fun r => .route r.path r.service)

/-- The local variables of the loops: the slice `backends` of the current
service and the map `services`, latest entry first. -/
structure BuildVars where
  backends : List Nat
  services : List (String × Nat)
  deriving DecidableEq, Repr

def BuildVars.empty : BuildVars := ⟨[], []⟩

def BuildVars.lookup (v : BuildVars) (name : String) : Option Nat :=
  (v.services.find? (·.1 == name)).map (·.2)

/-- How `Manager.Reload` ended. The configuration is the one it read. -/
inductive Outcome
  /-- Nil: `rt` is installed and `old` is retired. -/
  | accepted (cfg : Config) (rt old : Rid)
  /-- `ErrServerNotRunning`: `rt` was built, refused and retired. -/
  | rejected (cfg : Config) (rt : Rid)
  /-- The build failed after `rt` was allocated. -/
  | abandoned (rt : Rid) (err : Error)
  | failed (err : Error)
  deriving DecidableEq, Repr

def Outcome.err : Outcome → Option Error
  | .accepted _ _ _ => none
  | .rejected _ _ => some .serverNotRunning
  | .abandoned _ err => some err
  | .failed err => some err

/-- The runtime the call still answers for after its return. -/
def Outcome.owned : Outcome → Option (Rid × Role)
  | .accepted _ _ old => some (old, .displaced)
  | .rejected _ rt => some (rt, .rejected)
  | .abandoned rt _ => some (rt, .abandoned)
  | .failed _ => none

inductive ManagerPC
  | begin
  | load
  | tls (cfg : Config)
  | generation (cfg : Config) (tls : Option TLSSettings)
  | build (cfg : Config) (rt : Rid) (todo : List BuildItem) (vars : BuildVars)
  | startProber (cfg : Config) (rt : Rid) (backend : Nat) (todo : List BuildItem)
      (vars : BuildVars)
  | serverReload (cfg : Config) (rt : Rid) (pc : ReloadPC)
  /-- `rt.Stop()` of the refused runtime. -/
  | stop (cfg : Config) (rt : Rid) (pc : StopPC)
  | recordFailure (out : Outcome)
  | returned (out : Outcome)
  deriving DecidableEq, Repr

def noServer : Error := .text "reload manager has no server"

def backendError (env : Env) (service url err : String) : Error :=
  .text ("create backend " ++ quote env.isPrint url ++ " for service " ++
    quote env.isPrint service ++ ": " ++ err)

/-- `NewBackend` after its URL has parsed: the backend starts healthy. -/
def Runtime.addBackend (url : String) (rt : Runtime) : Runtime :=
  { rt with backends := rt.backends ++ [⟨url, true, rt.observabilityEnabled⟩] }

def Runtime.addService (backends : List Nat) (rt : Runtime) : Runtime :=
  { rt with services := rt.services ++ [⟨backends, 0⟩] }

def Runtime.addRoute (path : Bytes) (svc : Option Nat) (rt : Runtime) : Runtime :=
  { rt with router := rt.router.addRoute path svc }

/-- `nextGeneration.Add(1)` and `NewRuntime`. -/
def allocate (cfg : Config) (tls : Option TLSSettings) (sh : Shared) : Shared :=
  let generation := (sh.nextGeneration + 1) % 2 ^ 64
  { sh with
    nextGeneration := generation
    allocated := sh.allocated + 1
    heap := Function.update sh.heap sh.allocated
      (newRuntime generation cfg.server.addr tls cfg.observability.enabledValue) }

/-- The last component is the prober goroutine the step starts. -/
def managerReload (env : Env) (sh : Shared) :
    ManagerPC → Option (Shared × ManagerPC × Option Prober)
  | .begin => some (sh, if sh.hasServer then .load else .returned (.failed noServer), none)
  | .load =>
    match loadConfig env sh.disk.config with
    | .error err => some (sh, .recordFailure (.failed (.text err)), none)
    | .ok cfg => some (sh, .tls cfg, none)
  | .tls cfg =>
    match loadTlsConfig sh.disk cfg.tls with
    | .error err => some (sh, .recordFailure (.failed (.text ("load TLS config: " ++ err))), none)
    | .ok tls => some (sh, .generation cfg tls, none)
  | .generation cfg tls =>
    some (allocate cfg tls sh, .build cfg sh.allocated (buildPlan cfg) .empty, none)
  | .build cfg rt [] _ => some (sh, .serverReload cfg rt .lock, none)
  | .build cfg rt (.upstream service url :: todo) vars =>
    match env.parse url with
    | .error err =>
      some (sh.setRuntime rt ({ · with cancelled := true }),
        .recordFailure (.abandoned rt (backendError env service url err)), none)
    | .ok _ =>
      let b := (sh.heap rt).backends.length
      some ((sh.setRuntime rt (Runtime.addBackend url)).setMetrics
          (setBackendHealth ⟨url, true, (sh.heap rt).observabilityEnabled⟩),
        .startProber cfg rt b todo { vars with backends := vars.backends ++ [b] }, none)
  | .build cfg rt (.service name :: todo) vars =>
    some (sh.setRuntime rt (Runtime.addService vars.backends),
      .build cfg rt todo ⟨[], (name, (sh.heap rt).services.length) :: vars.services⟩, none)
  | .build cfg rt (.route path service :: todo) vars =>
    some (sh.setRuntime rt (Runtime.addRoute (bytes path) (vars.lookup service)),
      .build cfg rt todo vars, none)
  | .startProber cfg rt b todo vars =>
    some (TorusProxy.startProber sh rt, .build cfg rt todo vars,
      some ⟨rt, b, cfg.healthCheck.interval⟩)
  | .serverReload cfg rt (.accepted old) => some (sh, .returned (.accepted cfg rt old), none)
  | .serverReload cfg rt .rejected => some (sh, .stop cfg rt .cancel, none)
  | .serverReload cfg rt pc =>
    (reload rt sh pc).map fun (sh', pc') => (sh', .serverReload cfg rt pc', none)
  | .stop cfg rt .done => some (sh, .recordFailure (.rejected cfg rt), none)
  | .stop cfg rt pc =>
    (TorusProxy.stop sh rt pc).map fun (sh', pc') => (sh', .stop cfg rt pc', none)
  | .recordFailure out =>
    some (sh.setMetrics (fun m => { m with reloadsFailure := m.reloadsFailure + 1 }),
      .returned out, none)
  | .returned _ => none

namespace ManagerPC

def hold : ManagerPC → RWMutex.Hold
  | .serverReload _ _ pc => pc.hold
  | _ => .none

/-- The runtime the call answers for, and as what. -/
def owned : ManagerPC → Option (Rid × Role)
  | .build _ rt _ _ | .startProber _ rt _ _ _ => some (rt, .building)
  | .serverReload _ rt pc => some (pc.owned rt)
  | .stop _ rt _ => some (rt, .rejected)
  | .recordFailure out | .returned out => out.owned
  | _ => none

/-- The runtime the call stops, and how far it is. -/
def stopping : ManagerPC → Option (Rid × StopPC)
  | .serverReload _ _ pc => pc.stopping
  | .stop _ rt pc => some (rt, pc)
  | .recordFailure (.accepted _ _ old) | .returned (.accepted _ _ old) => some (old, .done)
  | .recordFailure (.rejected _ rt) | .returned (.rejected _ rt) => some (rt, .done)
  | _ => none

end ManagerPC

/-- Everything one step of a managed reload can do. -/
inductive ManagerMove (env : Env) (sh : Shared) :
    ManagerPC → Shared → ManagerPC → Option Prober → Prop
  | noServer (h : sh.hasServer = false) :
      ManagerMove env sh .begin sh (.returned (.failed noServer)) none
  | begin (h : sh.hasServer = true) : ManagerMove env sh .begin sh .load none
  | loadFailed (err : String) (h : loadConfig env sh.disk.config = .error err) :
      ManagerMove env sh .load sh (.recordFailure (.failed (.text err))) none
  | loaded (cfg : Config) (h : loadConfig env sh.disk.config = .ok cfg) :
      ManagerMove env sh .load sh (.tls cfg) none
  | tlsFailed (cfg : Config) (err : String) (h : loadTlsConfig sh.disk cfg.tls = .error err) :
      ManagerMove env sh (.tls cfg) sh
        (.recordFailure (.failed (.text ("load TLS config: " ++ err)))) none
  | tlsLoaded (cfg : Config) (tls : Option TLSSettings)
      (h : loadTlsConfig sh.disk cfg.tls = .ok tls) :
      ManagerMove env sh (.tls cfg) sh (.generation cfg tls) none
  | allocate (cfg : Config) (tls : Option TLSSettings) :
      ManagerMove env sh (.generation cfg tls) (allocate cfg tls sh)
        (.build cfg sh.allocated (buildPlan cfg) .empty) none
  | backendFailed (cfg : Config) (rt : Rid) (service url err : String) (todo : List BuildItem)
      (vars : BuildVars) (h : env.parse url = .error err) :
      ManagerMove env sh (.build cfg rt (.upstream service url :: todo) vars)
        (sh.setRuntime rt ({ · with cancelled := true }))
        (.recordFailure (.abandoned rt (backendError env service url err))) none
  | backend (cfg : Config) (rt : Rid) (service url : String) (todo : List BuildItem)
      (vars : BuildVars) (u : URL) (h : env.parse url = .ok u) :
      ManagerMove env sh (.build cfg rt (.upstream service url :: todo) vars)
        ((sh.setRuntime rt (Runtime.addBackend url)).setMetrics
          (setBackendHealth ⟨url, true, (sh.heap rt).observabilityEnabled⟩))
        (.startProber cfg rt (sh.heap rt).backends.length todo
          { vars with backends := vars.backends ++ [(sh.heap rt).backends.length] }) none
  | service (cfg : Config) (rt : Rid) (name : String) (todo : List BuildItem)
      (vars : BuildVars) :
      ManagerMove env sh (.build cfg rt (.service name :: todo) vars)
        (sh.setRuntime rt (Runtime.addService vars.backends))
        (.build cfg rt todo ⟨[], (name, (sh.heap rt).services.length) :: vars.services⟩) none
  | route (cfg : Config) (rt : Rid) (path service : String) (todo : List BuildItem)
      (vars : BuildVars) :
      ManagerMove env sh (.build cfg rt (.route path service :: todo) vars)
        (sh.setRuntime rt (Runtime.addRoute (bytes path) (vars.lookup service)))
        (.build cfg rt todo vars) none
  | startProber (cfg : Config) (rt : Rid) (b : Nat) (todo : List BuildItem) (vars : BuildVars) :
      ManagerMove env sh (.startProber cfg rt b todo vars) (TorusProxy.startProber sh rt)
        (.build cfg rt todo vars) (some ⟨rt, b, cfg.healthCheck.interval⟩)
  | offer (cfg : Config) (rt : Rid) (vars : BuildVars) :
      ManagerMove env sh (.build cfg rt [] vars) sh (.serverReload cfg rt .lock) none
  | reload {sh' : Shared} {pc pc' : ReloadPC} (cfg : Config) (rt : Rid)
      (move : ReloadMove rt sh pc sh' pc') :
      ManagerMove env sh (.serverReload cfg rt pc) sh' (.serverReload cfg rt pc') none
  | accepted (cfg : Config) (rt old : Rid) :
      ManagerMove env sh (.serverReload cfg rt (.accepted old)) sh
        (.returned (.accepted cfg rt old)) none
  | refused (cfg : Config) (rt : Rid) :
      ManagerMove env sh (.serverReload cfg rt .rejected) sh (.stop cfg rt .cancel) none
  | stop {sh' : Shared} {p p' : StopPC} (cfg : Config) (rt : Rid)
      (move : StopMove sh rt p sh' p') :
      ManagerMove env sh (.stop cfg rt p) sh' (.stop cfg rt p') none
  | stopped (cfg : Config) (rt : Rid) :
      ManagerMove env sh (.stop cfg rt .done) sh (.recordFailure (.rejected cfg rt)) none
  | recordFailure (out : Outcome) :
      ManagerMove env sh (.recordFailure out)
        (sh.setMetrics (fun m => { m with reloadsFailure := m.reloadsFailure + 1 }))
        (.returned out) none

theorem managerReload_move {env : Env} {sh sh' : Shared} {pc pc' : ManagerPC}
    {new : Option Prober} (h : managerReload env sh pc = some (sh', pc', new)) :
    ManagerMove env sh pc sh' pc' new := by
  cases pc with
  | begin =>
    cases h
    split
    · rename_i has; exact .begin has
    · rename_i has; exact .noServer (by simpa using has)
  | load =>
    simp only [managerReload] at h
    split at h <;> cases h
    · rename_i hc; exact .loadFailed _ hc
    · rename_i hc; exact .loaded _ hc
  | tls cfg =>
    simp only [managerReload] at h
    split at h <;> cases h
    · rename_i hc; exact .tlsFailed cfg _ hc
    · rename_i hc; exact .tlsLoaded cfg _ hc
  | generation cfg tls => cases h; exact .allocate cfg tls
  | build cfg rt todo vars =>
    cases todo with
    | nil => cases h; exact .offer cfg rt vars
    | cons item todo =>
      cases item with
      | upstream service url =>
        simp only [managerReload] at h
        split at h <;> cases h
        · rename_i hp; exact .backendFailed cfg rt service url _ todo vars hp
        · rename_i hp; exact .backend cfg rt service url todo vars _ hp
      | service name => cases h; exact .service cfg rt name todo vars
      | route path service => cases h; exact .route cfg rt path service todo vars
  | startProber cfg rt b todo vars => cases h; exact .startProber cfg rt b todo vars
  | serverReload cfg rt pc =>
    cases pc with
    | accepted old => cases h; exact .accepted cfg rt old
    | rejected => cases h; exact .refused cfg rt
    | _ =>
      simp only [managerReload, Option.map_eq_some_iff] at h
      obtain ⟨⟨sh₁, p₁⟩, hs, he⟩ := h
      cases he
      exact .reload cfg rt (reload_move hs)
  | stop cfg rt p =>
    cases p with
    | done => cases h; exact .stopped cfg rt
    | cancel | waitRequests | waitWorkers =>
      simp only [managerReload, Option.map_eq_some_iff] at h
      obtain ⟨⟨sh₁, p₁⟩, hs, he⟩ := h
      cases he
      exact .stop cfg rt (stop_move hs)
  | recordFailure out => cases h; exact .recordFailure out
  | returned out => cases h

theorem ManagerMove.turn {env : Env} {sh sh' : Shared} {pc pc' : ManagerPC}
    {new : Option Prober} (h : ManagerMove env sh pc sh' pc' new) :
    RWMutex.Turn sh.server.runtimeMu sh'.server.runtimeMu pc.hold pc'.hold := by
  cases h with
  | reload cfg rt move => exact move.turn
  | stop cfg rt move => rw [move.server]; exact .same _ rfl
  | _ => exact .same _ rfl

end TorusProxy
