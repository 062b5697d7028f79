import TorusProxy.Runtime

/-! `health.StartProber`: the goroutine that probes one backend, with its
recovery and restart after a panic. -/
namespace TorusProxy

/-- The arguments of `StartProber` that the goroutine keeps. -/
structure Prober where
  rt : Rid
  backend : Nat
  interval : Int
  deriving DecidableEq, Repr

/-- How a probe ended. `interrupted` is an error only because the runtime's
own context was cancelled. -/
inductive Verdict
  | passed
  | failed
  | interrupted
  deriving DecidableEq, Repr

/-- The value the callback stores: every error counts the same. -/
def Verdict.healthy : Verdict → Bool
  | .passed => true
  | .failed | .interrupted => false

inductive ProberPC
  | newTicker
  | select
  | check
  /-- `onHealthy` or `onUnhealthy`: the store, then the gauge. -/
  | setHealthy (v : Verdict)
  | setGauge (v : Verdict)
  | log
  | recovered
  | backoff
  /-- `ctx.Err() == nil`, then the call of `StartProber`. -/
  | restart
  | register
  | doneWorker
  | exited
  deriving DecidableEq, Repr

def Runtime.setHealthy (backend : Nat) (val : Bool) (rt : Runtime) : Runtime :=
  { rt with backends := rt.backends.modify backend ({ · with healthy := val }) }

/-- `observability.SetBackendHealth`, called when the backend is observed. -/
def setBackendHealth (b : Backend) (m : Metrics) : Metrics :=
  if b.observabilityEnabled then
    { m with backendUp := Function.update m.backendUp b.url (some b.healthy) }
  else m

/-- `AddWorker` and the start of the goroutine. -/
def startProber (sh : Shared) (r : Rid) : Shared :=
  sh.setRuntime r (fun x => { x with workerWG := x.workerWG + 1 })

/-- The last component tells that a replacement goroutine was started. -/
def prober (p : Prober) (sh : Shared) (c : Choice) : ProberPC → Option (Shared × ProberPC × Bool)
  | .newTicker => some (sh, if 0 < p.interval then .select else .recovered, false)
  | .select =>
    match c with
    | .tick => some (sh, .check, false)
    | .ctxDone => if (sh.heap p.rt).cancelled then some (sh, .doneWorker, false) else none
    | _ => none
  | .check =>
    match c with
    | .ok => some (sh, .setHealthy .passed, false)
    | .fail _ => some (sh, .setHealthy .failed, false)
    | .interrupted =>
      if (sh.heap p.rt).cancelled then some (sh, .setHealthy .interrupted, false) else none
    | .panic => some (sh, .recovered, false)
    | _ => none
  | .setHealthy v =>
    match c with
    | .panic => some (sh, .recovered, false)
    | _ => some (sh.setRuntime p.rt (Runtime.setHealthy p.backend v.healthy), .setGauge v, false)
  | .setGauge v =>
    match c with
    | .panic => some (sh, .recovered, false)
    | _ =>
      match (sh.heap p.rt).backends[p.backend]? with
      | none => none
      | some b =>
        some (sh.setMetrics (setBackendHealth { b with healthy := v.healthy }), .log, false)
  | .log =>
    match c with
    | .panic => some (sh, .recovered, false)
    | _ => some (sh, .select, false)
  | .recovered =>
    match c with
    | .panic => some (sh, .doneWorker, false)
    | _ => some (sh, .backoff, false)
  | .backoff =>
    match c with
    | .elapsed => some (sh, .restart, false)
    | .ctxDone => if (sh.heap p.rt).cancelled then some (sh, .doneWorker, false) else none
    | _ => none
  | .restart =>
    match c with
    | .panic => some (sh, .doneWorker, false)
    | _ => some (sh, if (sh.heap p.rt).cancelled then .doneWorker else .register, false)
  | .register =>
    match c with
    | .panic => some (sh, .doneWorker, false)
    | _ => some (startProber sh p.rt, .doneWorker, true)
  | .doneWorker =>
    some (sh.setRuntime p.rt (fun x => { x with workerWG := x.workerWG - 1 }), .exited, false)
  | .exited => none

/-- Registered in the runtime's worker group. -/
def ProberPC.alive : ProberPC → Nat
  | .exited => 0
  | _ => 1

/-- Still probing, or about to be replaced. -/
def ProberPC.active : ProberPC → Bool
  | .doneWorker | .exited => false
  | _ => true

/-- The outcome of `Check` the environment chose. -/
def Choice.verdict : Choice → Option Verdict
  | .ok => some .passed
  | .fail _ => some .failed
  | .interrupted => some .interrupted
  | _ => none

/-- Everything one step of a prober can do, place by place. -/
inductive ProberStep (p : Prober) (sh : Shared) (c : Choice) :
    ProberPC → Shared → ProberPC → Bool → Prop
  | verdict (v : Verdict) (ends : c.verdict = some v) :
      ProberStep p sh c .check sh (.setHealthy v) false
  | store (v : Verdict) :
      ProberStep p sh c (.setHealthy v)
        (sh.setRuntime p.rt (Runtime.setHealthy p.backend v.healthy)) (.setGauge v) false
  | expose (v : Verdict) (x : Backend) (calm : c ≠ .panic)
      (there : (sh.heap p.rt).backends[p.backend]? = some x) :
      ProberStep p sh c (.setGauge v)
        (sh.setMetrics (setBackendHealth { x with healthy := v.healthy })) .log false
  | lose (v : Verdict) (panics : c = .panic) :
      ProberStep p sh c (.setGauge v) sh .recovered false
  | register : ProberStep p sh c .register (startProber sh p.rt) .doneWorker true
  | exit :
      ProberStep p sh c .doneWorker
        (sh.setRuntime p.rt (fun x => { x with workerWG := x.workerWG - 1 })) .exited false
  /-- Nothing that is shared changes. -/
  | quiet {pc pc' : ProberPC} (active : pc.active = true) (alive' : pc'.alive = 1)
      (out : ∀ v, pc ≠ .setGauge v) (calm : ∀ v, pc' ≠ .setHealthy v ∧ pc' ≠ .setGauge v) :
      ProberStep p sh c pc sh pc' false

theorem prober_step {p : Prober} {sh sh' : Shared} {pc pc' : ProberPC} {c : Choice} {new : Bool}
    (h : prober p sh c pc = some (sh', pc', new)) : ProberStep p sh c pc sh' pc' new := by
  cases pc with
  | newTicker =>
    cases h
    split <;> exact .quiet rfl rfl (by simp) (by simp)
  | select | backoff =>
    simp only [prober] at h
    split at h
    · cases h; exact .quiet rfl rfl (by simp) (by simp)
    · split at h <;> cases h
      exact .quiet rfl rfl (by simp) (by simp)
    · cases h
  | check =>
    simp only [prober] at h
    split at h
    · cases h; exact .verdict .passed rfl
    · cases h; exact .verdict .failed rfl
    · split at h <;> cases h
      exact .verdict .interrupted rfl
    · cases h; exact .quiet rfl rfl (by simp) (by simp)
    · cases h
  | setHealthy v =>
    simp only [prober] at h
    split at h <;> cases h
    · exact .quiet rfl rfl (by simp) (by simp)
    · exact .store v
  | setGauge v =>
    simp only [prober] at h
    split at h
    · cases h; exact .lose v rfl
    · rename_i calm
      split at h
      · cases h
      · rename_i x there
        cases h
        exact .expose v x calm there
  | log | recovered =>
    simp only [prober] at h
    split at h <;> cases h <;> exact .quiet rfl rfl (by simp) (by simp)
  | restart =>
    simp only [prober] at h
    split at h <;> cases h
    · exact .quiet rfl rfl (by simp) (by simp)
    · split <;> exact .quiet rfl rfl (by simp) (by simp)
  | register =>
    simp only [prober] at h
    split at h <;> cases h
    · exact .quiet rfl rfl (by simp) (by simp)
    · exact .register
  | doneWorker => cases h; exact .exit
  | exited => cases h

/-- One step of a prober, as far as the worker group goes. -/
inductive ProberMove (p : Prober) (sh : Shared) :
    ProberPC → Shared → ProberPC → Bool → Prop
  | inner {sh' : Shared} {pc pc' : ProberPC} (alive : pc.alive = 1) (alive' : pc'.alive = 1)
      (still : Shared.Still sh sh') : ProberMove p sh pc sh' pc' false
  | restart : ProberMove p sh .register (startProber sh p.rt) .doneWorker true
  | exit :
      ProberMove p sh .doneWorker
        (sh.setRuntime p.rt (fun x => { x with workerWG := x.workerWG - 1 })) .exited false

theorem Runtime.setHealthy_still (backend : Nat) (val : Bool) (rt : Runtime) :
    (rt.setHealthy backend val).still = rt.still := by
  have same : (rt.backends.modify backend ({ · with healthy := val })).map
      ({ · with healthy := true }) = rt.backends.map ({ · with healthy := true } : Backend → Backend) := by
    apply List.ext_getElem?
    intro i
    simp only [List.getElem?_map, List.getElem?_modify]
    cases rt.backends[i]? with
    | none => rfl
    | some b => by_cases h : backend = i <;> simp [h]
  simp only [Runtime.still, Runtime.setHealthy, same]

theorem setBackendHealth_generation (b : Backend) (m : Metrics) :
    (setBackendHealth b m).generation = m.generation := by
  unfold setBackendHealth
  split <;> rfl

theorem prober_move {p : Prober} {sh sh' : Shared} {pc pc' : ProberPC} {c : Choice} {new : Bool}
    (h : prober p sh c pc = some (sh', pc', new)) : ProberMove p sh pc sh' pc' new := by
  cases prober_step h with
  | verdict v | lose v => exact .inner rfl rfl (.refl _)
  | store v => exact .inner rfl rfl (.setRuntime _ _ _ (Runtime.setHealthy_still _ _ _))
  | expose v x => exact .inner rfl rfl (.setMetrics _ _ (setBackendHealth_generation _ _))
  | register => exact .restart
  | exit => exact .exit
  | quiet active alive' =>
    have alive : pc.alive = 1 := by cases pc <;> first | rfl | cases active
    exact .inner alive alive' (.refl _)

end TorusProxy
