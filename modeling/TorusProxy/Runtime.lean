import TorusProxy.Config
import TorusProxy.Lib.RWMutex
import TorusProxy.ServeMux
import Mathlib.Logic.Function.Basic

/-! The data one process shares between its goroutines: the runtimes that
were ever allocated, the server, the metrics and the files. -/
namespace TorusProxy

/-- An allocated `runtime.Runtime`. Every allocation takes the next number. -/
abbrev Rid := Nat

structure Backend where
  url : String
  healthy : Bool
  observabilityEnabled : Bool
  deriving DecidableEq, Repr

/-- `service.Service` with its round-robin balancer. The backends are places
in the runtime's list. -/
structure Service where
  backends : List Nat
  index : Nat
  deriving DecidableEq, Repr

/-- The routes in the order the map is iterated. A route to a name that is no
service carries a nil service. -/
structure Router where
  routes : List (Bytes × Option Nat)
  deriving DecidableEq, Repr

/-- A repeated path keeps its place and takes the new service. -/
def Router.addRoute (r : Router) (path : Bytes) (svc : Option Nat) : Router :=
  if r.routes.any (·.1 == path) then
    ⟨r.routes.map fun kv => if kv.1 = path then (path, svc) else kv⟩
  else ⟨r.routes ++ [(path, svc)]⟩

/-- The loop body of `Route`: a key that is a whole-segment prefix of the path
and longer than the best so far. -/
def Router.better (path : Bytes) (best kv : Bytes × Option Nat) : Bytes × Option Nat :=
  if kv.1.isPrefixOf path ∧
      (path.length = kv.1.length ∨ path[kv.1.length]? = some 47) ∧
      best.1.length < kv.1.length then kv
  else best

def Router.route (r : Router) (path : Bytes) : Bytes × Option Nat :=
  r.routes.foldl (Router.better path) ([], none)

structure Runtime where
  generation : Nat
  addr : String
  router : Router
  tlsConfig : Option TLSSettings
  observabilityEnabled : Bool
  /-- The context its probers run under. -/
  cancelled : Bool
  requestWG : Nat
  workerWG : Nat
  backends : List Backend
  services : List Service

/-- `NewRuntime`, under a context that is not cancelled. -/
def newRuntime (generation : Nat) (addr : String) (tls : Option TLSSettings)
    (observabilityEnabled : Bool) : Runtime :=
  ⟨generation, addr, ⟨[]⟩, tls, observabilityEnabled, false, 0, 0, [], []⟩

inductive Error
  /-- `ErrServerNotRunning`, "server is not running". -/
  | serverNotRunning
  | text (message : String)
  deriving DecidableEq, Repr

inductive ServerState
  | starting
  | running
  | shuttingDown
  | stopped
  deriving DecidableEq, Repr

/-- The order of the constants in the source. -/
def ServerState.rank : ServerState → Nat
  | .starting => 0
  | .running => 1
  | .shuttingDown => 2
  | .stopped => 3

/-- What the program relies on of `http.Server`: `handlers` are the handler
calls that have not returned, `drained` that a `Shutdown` has returned nil. -/
structure HttpServer where
  assigned : Bool
  serving : Bool
  inShutdown : Bool
  drained : Bool
  handlers : Nat

/-- The handlers `Start` registers. -/
inductive Endpoint
  | proxy
  | metrics
  | readyz
  deriving DecidableEq, Repr

structure Server where
  runtime : Rid
  runtimeMu : RWMutex
  srv : HttpServer
  /-- `shutdownDone` is closed. -/
  shutdownDone : Bool
  shutdownErr : Option Error
  ready : Bool
  state : ServerState
  /-- Nil until `Start` has made the base context; then whether it is cancelled. -/
  forceCancel : Option Bool
  /-- The handler of `s.srv`. -/
  mux : ServeMux Endpoint
  /-- Nil until `Start` listens; then the TLS it has put around the listener. -/
  listener : Option (Option TLSSettings)

/-- The collectors the modelled code writes. A label that was never written
has no value. -/
structure Metrics where
  generation : Nat
  reloadsSuccess : Nat
  reloadsFailure : Nat
  inflight : Int
  requestsTotal : String × Bytes × Nat → Nat
  backendUp : String → Option Bool

structure Shared where
  server : Server
  heap : Rid → Runtime
  /-- The next runtime to be allocated. -/
  allocated : Rid
  nextGeneration : Nat
  metrics : Metrics
  disk : Disk
  /-- `SetServer` has been called on the reload manager. -/
  hasServer : Bool
  /-- History: the runtimes the server has had active, in order. No step reads it. -/
  installed : List Rid

namespace Shared

def setServer (sh : Shared) (f : Server → Server) : Shared := { sh with server := f sh.server }

def setRuntime (sh : Shared) (r : Rid) (f : Runtime → Runtime) : Shared :=
  { sh with heap := Function.update sh.heap r (f (sh.heap r)) }

def setMetrics (sh : Shared) (f : Metrics → Metrics) : Shared :=
  { sh with metrics := f sh.metrics }

/-- An operation on `runtimeMu` that may have to wait. -/
def tryMu (sh : Shared) (op : RWMutex → Option RWMutex) : Option Shared :=
  (op sh.server.runtimeMu).map fun m => sh.setServer ({ · with runtimeMu := m })

def unlock (sh : Shared) : Shared :=
  sh.setServer fun s => { s with runtimeMu := s.runtimeMu.unlock }

variable (sh : Shared) (r : Rid) (f : Runtime → Runtime) (g : Server → Server)

@[simp] theorem setServer_server : (sh.setServer g).server = g sh.server := rfl

@[simp] theorem setRuntime_heap :
    (sh.setRuntime r f).heap = Function.update sh.heap r (f (sh.heap r)) := rfl

@[simp] theorem setMetrics_heap (h : Metrics → Metrics) : (sh.setMetrics h).heap = sh.heap := rfl

theorem tryMu_eq_some {sh sh' : Shared} {op : RWMutex → Option RWMutex} :
    sh.tryMu op = some sh' ↔
      ∃ m, op sh.server.runtimeMu = some m ∧ sh.setServer ({ · with runtimeMu := m }) = sh' := by
  simp [tryMu]

/-- Taking the lock, or asking for it, keeps what does not look at the lock. -/
theorem tryMu_same {β : Type} (φ : Shared → β) {sh sh' : Shared} {op : RWMutex → Option RWMutex}
    (ignores : ∀ m, φ (sh.setServer ({ · with runtimeMu := m })) = φ sh)
    (h : sh.tryMu op = some sh') : φ sh' = φ sh := by
  obtain ⟨m, -, rfl⟩ := tryMu_eq_some.mp h
  exact ignores m

end Shared

/-- A runtime without what requests and probes move: the health of its
backends and the positions of its balancers. -/
def Runtime.still (rt : Runtime) : Runtime :=
  { rt with
    backends := rt.backends.map ({ · with healthy := true })
    services := rt.services.map ({ · with index := 0 }) }

/-- Only metrics, backend health and balancer positions differ. -/
structure Shared.Still (sh sh' : Shared) : Prop where
  server : sh'.server = sh.server
  allocated : sh'.allocated = sh.allocated
  installed : sh'.installed = sh.installed
  nextGeneration : sh'.nextGeneration = sh.nextGeneration
  generation : sh'.metrics.generation = sh.metrics.generation
  disk : sh'.disk = sh.disk
  hasServer : sh'.hasServer = sh.hasServer
  heap : ∀ r, (sh'.heap r).still = (sh.heap r).still

theorem Shared.Still.refl (sh : Shared) : Shared.Still sh sh :=
  ⟨rfl, rfl, rfl, rfl, rfl, rfl, rfl, fun _ => rfl⟩

theorem Shared.Still.requestWG {sh sh' : Shared} (h : Shared.Still sh sh') (r : Rid) :
    (sh'.heap r).requestWG = (sh.heap r).requestWG := by
  have same := congrArg Runtime.requestWG (h.heap r)
  exact same

theorem Shared.Still.workerWG {sh sh' : Shared} (h : Shared.Still sh sh') (r : Rid) :
    (sh'.heap r).workerWG = (sh.heap r).workerWG := by
  have same := congrArg Runtime.workerWG (h.heap r)
  exact same

theorem Shared.Still.cancelled {sh sh' : Shared} (h : Shared.Still sh sh') (r : Rid) :
    (sh'.heap r).cancelled = (sh.heap r).cancelled := by
  have same := congrArg Runtime.cancelled (h.heap r)
  exact same

theorem Shared.Still.setMetrics (sh : Shared) (f : Metrics → Metrics)
    (h : (f sh.metrics).generation = sh.metrics.generation) : Shared.Still sh (sh.setMetrics f) :=
  ⟨rfl, rfl, rfl, rfl, h, rfl, rfl, fun _ => rfl⟩

theorem Shared.Still.setRuntime (sh : Shared) (r : Rid) (f : Runtime → Runtime)
    (h : (f (sh.heap r)).still = (sh.heap r).still) : Shared.Still sh (sh.setRuntime r f) := by
  refine ⟨rfl, rfl, rfl, rfl, rfl, rfl, rfl, fun q => ?_⟩
  by_cases hq : q = r
  · subst hq; simpa using h
  · simp [hq]

/-- The places of `Runtime.Stop`: `done` is after its return. -/
inductive StopPC
  | cancel
  | waitRequests
  | waitWorkers
  | done
  deriving DecidableEq, Repr

/-- `Runtime.Stop`. The waits return only at zero. -/
def stop (sh : Shared) (r : Rid) : StopPC → Option (Shared × StopPC)
  | .cancel => some (sh.setRuntime r ({ · with cancelled := true }), .waitRequests)
  | .waitRequests => if (sh.heap r).requestWG = 0 then some (sh, .waitWorkers) else none
  | .waitWorkers => if (sh.heap r).workerWG = 0 then some (sh, .done) else none
  | .done => none

/-- One step of `Runtime.Stop` in some caller. -/
inductive StopMove (sh : Shared) (r : Rid) : StopPC → Shared → StopPC → Prop
  | cancel :
      StopMove sh r .cancel (sh.setRuntime r ({ · with cancelled := true })) .waitRequests
  | waitRequests (zero : (sh.heap r).requestWG = 0) : StopMove sh r .waitRequests sh .waitWorkers
  | waitWorkers (zero : (sh.heap r).workerWG = 0) : StopMove sh r .waitWorkers sh .done

theorem stop_move {sh sh' : Shared} {r : Rid} {pc pc' : StopPC}
    (h : stop sh r pc = some (sh', pc')) : StopMove sh r pc sh' pc' := by
  cases pc with
  | cancel => cases h; exact .cancel
  | waitRequests =>
    simp only [stop] at h
    split at h
    · rename_i zero
      cases h
      exact .waitRequests zero
    · cases h
  | waitWorkers =>
    simp only [stop] at h
    split at h
    · rename_i zero
      cases h
      exact .waitWorkers zero
    · cases h
  | done => cases h

theorem StopMove.server {sh sh' : Shared} {r : Rid} {p p' : StopPC}
    (h : StopMove sh r p sh' p') : sh'.server = sh.server := by
  cases h <;> rfl

/-- What the environment decides for a step: the outcome of a call out of the
program, or which ready case a `select` takes. -/
inductive Choice
  | go
  | ok
  | fail (message : String)
  | panic
  | status (code : Nat)
  /-- The reverse proxy panics after the recorder has seen a status. -/
  | abort (code : Nat)
  | tick
  | ctxDone
  | elapsed
  /-- An error that is only the cancellation of the caller's own context. -/
  | interrupted
  deriving DecidableEq, Repr

end TorusProxy
