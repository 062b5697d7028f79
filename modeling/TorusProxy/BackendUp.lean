import Mathlib.Data.List.NodupEquivFin
import TorusProxy.Availability
import TorusProxy.Blueprint
import TorusProxy.Metrics
import TorusProxy.Roles

/-! `torus_backend_up`. The gauge has one cell for a URL and every runtime with
that URL writes it: the active one, those whose probes outlive their retirement
and those that are built and never installed. -/
namespace TorusProxy

open Threads

/-- The URL is that of exactly one backend. -/
def Runtime.Once (rt : Runtime) (url : String) : Prop := (rt.backends.map Backend.url).count url = 1

instance (rt : Runtime) (url : String) : Decidable (rt.Once url) :=
  inferInstanceAs (Decidable ((rt.backends.map Backend.url).count url = 1))

/-- The runtime and all of its backends export metrics. -/
structure Runtime.Observed (rt : Runtime) : Prop where
  runtime : rt.observabilityEnabled = true
  backends : ∀ x ∈ rt.backends, x.observabilityEnabled = true

/-- One call of `SetBackendHealth`, by a backend of the runtime. -/
structure GaugeWrite where
  rt : Rid
  url : String
  healthy : Bool

namespace Thread

/-- The backend whose callback has stored the flag and is to set the gauge. -/
def updates : Thread → Option (Rid × Nat)
  | .prober p (.setGauge _) => some (p.rt, p.backend)
  | _ => none

/-- What the next step of a goroutine sets the gauge to. -/
def sets (env : Env) (sh : Shared) (c : Choice) : Thread → Option GaugeWrite
  | .manager (.build _ rt (.upstream _ url :: _) _) =>
    (env.parse url).toOption.map fun _ => ⟨rt, url, true⟩
  | .prober p (.setGauge v) =>
    if c = .panic then none
    else (sh.heap p.rt).backends[p.backend]?.map fun x => ⟨p.rt, x.url, v.healthy⟩
  | _ => none

/-- The runtime a call builds, or has built and not yet installed. -/
def candidate (t : Thread) : Option Rid :=
  match t.owned with
  | some (r, .building) | some (r, .pending) => some r
  | _ => none

/-- The configuration a call has loaded and not yet allocated a runtime for. -/
def reads : Thread → Option Config
  | .manager (.tls cfg) | .manager (.generation cfg _) => some cfg
  | _ => none

/-- No probe callback, build or reload is in progress here. -/
def quiet : Thread → Bool
  | .prober _ (.setHealthy _) | .prober _ (.setGauge _) => false
  | .manager (.returned _) => true
  | .manager _ => false
  | .reload _ (.accepted _) | .reload _ .rejected => true
  | .reload _ _ => false
  | _ => true

end Thread

/-- The active runtime and those that may follow it. -/
def World.candidates (w : World) : List Rid :=
  w.shared.server.runtime :: w.threads.filterMap Thread.candidate

/-- The callback of this backend is between the store and the gauge. -/
def Underway (w : World) (r : Rid) (b : Nat) : Prop := ∃ t ∈ w.threads, t.updates = some (r, b)

/-- The gauge shows the flag of the backend at this place, or is about to. -/
def Shown (w : World) (r : Rid) : Prop :=
  ∀ b x, (w.shared.heap r).backends[b]? = some x → (w.shared.heap r).Once x.url →
    w.shared.metrics.backendUp x.url = some x.healthy ∨ Underway w r b

/-! ## What a step does to the flags and to the gauge -/

/-- Everything one step can do to the flags and to the gauge. -/
inductive GaugeMove (env : Env) (sh : Shared) (t : Thread) (c : Choice) (sh' : Shared)
    (t' : Thread) : Prop
  | store (p : Prober) (v : Verdict) (at_ : t = .prober p (.setHealthy v))
      (to_ : t' = .prober p (.setGauge v))
      (stored : sh' = sh.setRuntime p.rt (Runtime.setHealthy p.backend v.healthy))
  | expose (p : Prober) (v : Verdict) (x : Backend) (at_ : t = .prober p (.setGauge v))
      (to_ : t' = .prober p .log) (calm : c ≠ .panic)
      (there : (sh.heap p.rt).backends[p.backend]? = some x)
      (exposed : sh' = sh.setMetrics (setBackendHealth { x with healthy := v.healthy }))
  | lose (p : Prober) (v : Verdict) (at_ : t = .prober p (.setGauge v))
      (to_ : t' = .prober p .recovered) (panics : c = .panic) (same : sh' = sh)
  | add (cfg : Config) (rt : Rid) (service url : String) (todo : List BuildItem)
      (vars : BuildVars) (u : URL)
      (at_ : t = .manager (.build cfg rt (.upstream service url :: todo) vars))
      (parsed : env.parse url = .ok u)
      (added : sh' = (sh.setRuntime rt (Runtime.addBackend url)).setMetrics
        (setBackendHealth ⟨url, true, (sh.heap rt).observabilityEnabled⟩))
      (after : t'.updates = none)
  | allocate (cfg : Config) (tls : Option TLSSettings) (at_ : t = .manager (.generation cfg tls))
      (allocated : sh' = TorusProxy.allocate cfg tls sh) (after : t'.updates = none)
  | other (backends : ∀ r, (sh'.heap r).backends = (sh.heap r).backends)
      (gauge : sh'.metrics.backendUp = sh.metrics.backendUp)
      (allocated : sh'.allocated = sh.allocated) (before : t.updates = none)
      (after : t'.updates = none) (silent : t.sets env sh c = none)

section
variable {env : Env} {sh sh' : Shared} {c : Choice}

theorem prober_gauge {p : Prober} {pc pc' : ProberPC} {new : Bool}
    (h : prober p sh c pc = some (sh', pc', new)) :
    GaugeMove env sh (.prober p pc) c sh' (.prober p pc') := by
  cases prober_step h with
  | store v => exact .store p v rfl rfl rfl
  | expose v x calm there => exact .expose p v x rfl rfl calm there rfl
  | lose v panics => exact .lose p v rfl rfl panics rfl
  | verdict v => exact .other (fun _ => rfl) rfl rfl rfl rfl rfl
  | register | exit =>
    exact .other (fun r => Shared.setRuntime_same r Runtime.backends rfl) rfl rfl rfl rfl rfl
  | quiet _ _ out calm =>
    have silent (q : ProberPC) (out : ∀ v, q ≠ .setGauge v) :
        (Thread.prober p q).updates = none ∧ (Thread.prober p q).sets env sh c = none := by
      cases q with
      | setGauge v => exact absurd rfl (out v)
      | _ => exact ⟨rfl, rfl⟩
    exact .other (fun _ => rfl) rfl rfl (silent pc out).1 (silent pc' fun v => (calm v).2).1
      (silent pc out).2

theorem ManagerMove.gauge {pc pc' : ManagerPC} {q : Option Prober}
    (h : ManagerMove env sh pc sh' pc' q) :
    GaugeMove env sh (.manager pc) c sh' (.manager pc') := by
  cases h with
  | allocate cfg tls => exact .allocate cfg tls rfl rfl rfl
  | backend cfg rt service url todo vars u parsed =>
    exact .add cfg rt service url todo vars u rfl parsed rfl rfl
  | reload cfg rt move =>
    exact .other (fun r => move.heap_same r Runtime.backends (fun _ => rfl))
      (move.metrics_same Metrics.backendUp (fun _ _ => rfl) (fun _ _ => rfl)) move.allocated
      rfl rfl rfl
  | stop cfg rt move =>
    exact .other (fun r => move.heap_same r Runtime.backends (fun _ => rfl))
      (congrArg Metrics.backendUp move.metrics) move.fixed.allocated rfl rfl rfl
  | backendFailed cfg rt service url err todo vars failed =>
    exact .other (fun r => Shared.setRuntime_same r Runtime.backends rfl) rfl rfl rfl rfl
      (by simp [Thread.sets, failed, Except.toOption])
  | service | route | startProber =>
    exact .other (fun r => Shared.setRuntime_same r Runtime.backends rfl) rfl rfl rfl rfl rfl
  | _ => exact .other (fun _ => rfl) rfl rfl rfl rfl rfl

theorem Thread.step_gauge {t t' : Thread} {new : List Thread}
    (h : t.step env sh c = some (sh', t', new)) : GaugeMove env sh t c sh' t' := by
  cases Thread.step_runs h with
  | request runs =>
    exact .other (httpHandler_backends runs)
      (httpHandler_metrics_same Metrics.backendUp (fun _ _ => rfl) (fun _ _ => rfl) runs)
      (httpHandler_move runs).fixed.allocated rfl rfl rfl
  | reload runs =>
    have move := reload_move runs
    exact .other (fun r => move.heap_same r Runtime.backends (fun _ => rfl))
      (move.metrics_same Metrics.backendUp (fun _ _ => rfl) (fun _ _ => rfl)) move.allocated
      rfl rfl rfl
  | shutdown runs =>
    have move := shutdown_move runs
    exact .other (fun r => move.heap_same r Runtime.backends (fun _ => rfl))
      (congrArg Metrics.backendUp move.metrics) move.fixed.allocated rfl rfl rfl
  | start runs =>
    have move := start_move runs
    exact .other (fun r => move.heap_same r Runtime.backends (fun _ => rfl))
      (congrArg Metrics.backendUp move.metrics) move.fixed.allocated rfl rfl rfl
  | prober runs => exact prober_gauge runs
  | manager runs => exact (managerReload_move runs).gauge

theorem Thread.candidate_owned {t : Thread} {r : Rid} :
    t.candidate = some r ↔
      ∃ role, t.owned = some (r, role) ∧ (role = .building ∨ role = .pending) := by
  unfold Thread.candidate
  constructor
  · intro h
    split at h <;> cases h
    · exact ⟨.building, ‹_›, .inl rfl⟩
    · exact ⟨.pending, ‹_›, .inr rfl⟩
  · rintro ⟨role, owned, rfl | rfl⟩ <;> rw [owned]

/-- What is built now was built before, or has just been allocated. -/
theorem ThreadMove.candidate {t t' : Thread} {new : List Thread}
    (h : ThreadMove env sh t sh' t' new) {r : Rid} (hr : t'.candidate = some r) :
    t.candidate = some r ∨ r = sh.allocated := by
  obtain ⟨role', after, stands⟩ := Thread.candidate_owned.mp hr
  rcases h.role_back after with ⟨role, before, next⟩ | rfl | ⟨allocated, -⟩
  · have earlier : role = .building ∨ role = .pending := by
      cases next with
      | stays => exact stands
      | offered => exact .inl rfl
      | abandoned | refused => rcases stands with h | h <;> cases h
    exact .inl (Thread.candidate_owned.mpr ⟨role, before, earlier⟩)
  · rcases stands with h | h <;> cases h
  · exact .inr allocated

theorem Runtime.Observed.of_blueprint {rt rt' : Runtime} (h : rt.Observed)
    (same : rt'.blueprint = rt.blueprint) : rt'.Observed := by
  have runtime := congrArg Runtime.observabilityEnabled same
  have flags := congrArg (fun x : Runtime => x.backends.map Backend.observabilityEnabled) same
  simp only [Runtime.blueprint, Runtime.still, List.map_map, Function.comp_def] at runtime flags
  refine ⟨runtime.trans h.runtime, ?_⟩
  intro x hx
  have mem := List.mem_map_of_mem (f := Backend.observabilityEnabled) hx
  rw [flags] at mem
  obtain ⟨y, hy, eq⟩ := List.mem_map.mp mem
  exact eq.symm.trans (h.backends y hy)

theorem Runtime.Observed.addBackend {rt : Runtime} (h : rt.Observed) (url : String) :
    (rt.addBackend url).Observed := by
  refine ⟨h.runtime, ?_⟩
  intro x hx
  rcases List.mem_append.mp hx with hx | hx
  · exact h.backends x hx
  · rw [List.mem_singleton.mp hx]
    exact h.runtime

/-- No step takes the observability of a runtime away. -/
theorem ThreadMove.observed {t t' : Thread} {new : List Thread}
    (h : ThreadMove env sh t sh' t' new) {r : Rid} (ne : r ≠ sh.allocated)
    (on : (sh.heap r).Observed) : (sh'.heap r).Observed := by
  by_cases built : t.owned = some (r, .building)
  · have update (f : Runtime → Runtime) (keeps : (f (sh.heap r)).Observed) :
        ((sh.setRuntime r f).heap r).Observed := by
      simpa using keeps
    cases h with
    | manager move =>
      cases move with
      | backend cfg rt service url => cases built; exact update _ (on.addBackend url)
      | service | route | startProber | backendFailed =>
        cases built
        exact update _ ⟨on.runtime, on.backends⟩
      | offer => exact on
      | reload cfg rt move =>
        exact on.of_blueprint (move.heap_same r Runtime.blueprint fun _ => rfl)
      | stop cfg rt => cases built
      | _ => first | exact on | cases built
    | reload rt move => exact on.of_blueprint (move.heap_same r Runtime.blueprint fun _ => rfl)
    | request | shutdown | start | prober => cases built
  · exact on.of_blueprint (h.blueprint ne built)

end

/-! ## Along a run -/

/-- Every configuration that is loaded has observability enabled. -/
def Observes (env : Env) (w : World) : Action → Prop
  | .run i _ => w.threads[i]? = some (.manager .load) →
      ∀ cfg ∈ (loadConfig env w.shared.disk.config).toOption, cfg.observability.enabledValue = true
  | _ => True

/-- The step does not take the gauge away from this backend: another runtime
sets the URL to the value of its flag, or before the backend's own callback
does, and that callback panics after its store only with nothing to set. -/
def Respects (env : Env) (w : World) (t : Thread) (c : Choice) (r : Rid) (b : Nat)
    (x : Backend) : Prop :=
  (∀ s ∈ t.sets env w.shared c, s.rt ≠ r → s.url = x.url →
    x.healthy = s.healthy ∨ Underway w r b) ∧
  (c = .panic → t.updates = some (r, b) → w.shared.metrics.backendUp x.url = some x.healthy)

/-- Every step respects the backends, with URLs of their own, of the active
runtime and of those that may follow it. -/
def Agreeing (env : Env) (w : World) : Action → Prop
  | .run i c => ∀ t ∈ w.threads[i]?, ∀ r ∈ w.candidates,
      ∀ b < (w.shared.heap r).backends.length, ∀ x ∈ (w.shared.heap r).backends[b]?,
        (w.shared.heap r).Once x.url → Respects env w t c r b x
  | _ => True

section
variable {env : Env} {sh sh' : Shared} {t t' : Thread} {c : Choice}

theorem setBackendHealth_up (x : Backend) (m : Metrics) (on : x.observabilityEnabled = true)
    (url : String) :
    (setBackendHealth x m).backendUp url =
      if url = x.url then some x.healthy else m.backendUp url := by
  rw [setBackendHealth, if_pos on]
  exact Function.update_apply _ _ _ _

theorem GaugeMove.allocated (h : GaugeMove env sh t c sh' t') :
    sh'.allocated = sh.allocated ∨
      ∃ cfg tls, t = .manager (.generation cfg tls) ∧ sh' = TorusProxy.allocate cfg tls sh := by
  cases h with
  | store _ _ _ _ stored => rw [stored]; exact .inl rfl
  | expose _ _ _ _ _ _ _ exposed => rw [exposed]; exact .inl rfl
  | lose _ _ _ _ _ same => rw [same]; exact .inl rfl
  | add _ _ _ _ _ _ _ _ _ added => rw [added]; exact .inl rfl
  | allocate cfg tls at_ allocated => exact .inr ⟨cfg, tls, at_, allocated⟩
  | other _ _ allocated => exact .inl allocated

/-- Only its own prober changes a backend that is there. -/
theorem GaugeMove.kept (h : GaugeMove env sh t c sh' t') {r : Rid} {b : Nat}
    (lt : r < sh.allocated) (short : b < (sh.heap r).backends.length)
    (other : ∀ p v, t = .prober p (.setHealthy v) → r = p.rt → b ≠ p.backend) :
    (sh'.heap r).backends[b]? = (sh.heap r).backends[b]? := by
  cases h with
  | store p v at_ _ stored =>
    rw [stored]
    exact sh.setHealthy_other _ (other p v at_)
  | expose _ _ _ _ _ _ _ exposed => rw [exposed]; rfl
  | lose _ _ _ _ _ same => rw [same]
  | add _ rt _ url _ _ _ _ _ added =>
    rw [added]
    by_cases hr : r = rt
    · subst hr
      simp [Runtime.addBackend, List.getElem?_append_left short]
    · simp [hr]
  | allocate cfg tls _ allocated =>
    rw [allocated]
    simp [TorusProxy.allocate, Nat.ne_of_lt lt]
  | other backends => rw [backends r]

end

section
variable {env : Env} {w w' : World} {a : Action}

/-- All that is built, or will be, exports metrics. -/
structure Observing (w : World) : Prop where
  loaded : ∀ t ∈ w.threads, ∀ cfg, t.reads = some cfg → cfg.observability.enabledValue = true
  runtimes : ∀ r, r < w.shared.allocated → (w.shared.heap r).Observed

theorem Observing.step_loaded (h : Observing w) (observes : Observes env w a)
    (m : Moved (machine env) w a w') :
    ∀ t ∈ w'.threads, ∀ cfg, t.reads = some cfg → cfg.observability.enabledValue = true := by
  refine World.each m (fun t => ∀ cfg, t.reads = some cfg →
    cfg.observability.enabledValue = true) h.loaded ?_ ?_ ?_
  · rintro i t c sh' t' new rfl hi inv fires cfg reads
    cases Thread.step_move fires with
    | manager move =>
      cases move with
      | loaded cfg' load =>
        cases reads
        exact observes hi cfg (by simp [load, Except.toOption])
      | tlsLoaded cfg' tls => exact inv cfg reads
      | _ => cases reads
    | request | reload | shutdown | start | prober => cases reads
  · rintro p cfg ⟨⟩
  · intro x sh' t fires
    cases enter_move fires <;> rintro cfg ⟨⟩

theorem Observing.step_runtimes (h : Observing w) (managed : Managed w a)
    (m : Moved (machine env) w a w') :
    ∀ r, r < w'.shared.allocated → (w'.shared.heap r).Observed := by
  intro r lt
  cases m with
  | step at_ fires =>
    have move := Thread.step_move fires
    rcases (Thread.step_gauge fires).allocated with same | ⟨cfg, tls, rfl, rfl⟩
    · have old : r < w.shared.allocated := same ▸ lt
      exact move.observed (Nat.ne_of_lt old) (h.runtimes r old)
    · by_cases hr : r = w.shared.allocated
      · have enabled := h.loaded _ (List.mem_of_getElem? at_) cfg rfl
        refine ⟨?_, ?_⟩
        · simpa [hr, TorusProxy.allocate, newRuntime] using enabled
        · simp [hr, TorusProxy.allocate, newRuntime]
      · have old : r < w.shared.allocated := Nat.lt_of_le_of_ne (Nat.le_of_lt_succ lt) hr
        exact move.observed hr (h.runtimes r old)
  | enter fires =>
    cases enter_move fires with
    | reload rt => exact absurd rfl (managed rt)
    | request | manager | shutdown => exact h.runtimes r lt
  | change fires => cases fires; exact h.runtimes r lt

/-- The flag is what the callback has stored. -/
def Stored (sh : Shared) (p : Prober) (v : Verdict) : Prop :=
  ∀ x ∈ (sh.heap p.rt).backends[p.backend]?, x.healthy = v.healthy

theorem Posted.step_stored (h : Posted w)
    (stored : ∀ t ∈ w.threads, ∀ p v, t = .prober p (.setGauge v) → Stored w.shared p v)
    (m : Moved (machine env) w a w') :
    ∀ t ∈ w'.threads, ∀ p v, t = .prober p (.setGauge v) → Stored w'.shared p v := by
  have placed {p : Prober} {v : Verdict} (ht : .prober p (.setGauge v) ∈ w.threads) :=
    h.placed ht (r := p.rt) (b := p.backend) (by simp [Thread.probes, ProberPC.active])
  refine World.assertion m (fun sh t => ∀ p v, t = .prober p (.setGauge v) → Stored sh p v)
    stored ?_ ?_ ?_ ?_ ?_
  · rintro i t c sh' _ new rfl hi inv fires p v rfl
    cases Thread.step_gauge fires with
    | store q v' _ to_ stored =>
      cases to_
      subst stored
      intro x hx
      simp only [Shared.setRuntime_heap, Function.update_self, Runtime.setHealthy,
        List.getElem?_modify_eq, Option.mem_def, Option.map_eq_map, Option.map_eq_some_iff] at hx
      obtain ⟨y, -, rfl⟩ := hx
      rfl
    | expose _ _ _ _ to_ | lose _ _ _ to_ => cases to_
    | add _ _ _ _ _ _ _ _ _ _ after | allocate _ _ _ _ after | other _ _ _ _ after => cases after
  · rintro i j t u c sh' t' new rfl hij hi hj fires inv p v rfl
    obtain ⟨lt, short⟩ := placed (List.mem_of_getElem? hj)
    have kept := (Thread.step_gauge fires).kept lt short (by
      rintro q v' rfl same
      exact h.distinct hij hi hj rfl rfl same)
    intro x hx
    rw [kept] at hx
    exact inv p v rfl x hx
  · rintro sh' q p v ⟨⟩
  · intro x sh' t fires
    cases enter_move fires with
    | reload rt =>
      refine ⟨by rintro p v ⟨⟩, ?_⟩
      rintro u hu inv p v rfl
      have lt := (placed hu).1
      simpa [Stored, Nat.ne_of_lt lt] using inv p v rfl
    | request | manager | shutdown => exact ⟨by rintro p v ⟨⟩, fun _ _ inv => inv⟩
  · intro disk u inv
    exact inv

/-! ## The gauge and the candidates -/

theorem mem_candidates {r : Rid} :
    r ∈ w.candidates ↔
      r = w.shared.server.runtime ∨ ∃ t ∈ w.threads, t.candidate = some r := by
  simp [World.candidates]

theorem Consistent.candidate_lt (c : Consistent w) {r : Rid} (hr : r ∈ w.candidates) :
    r < w.shared.allocated := by
  rcases mem_candidates.mp hr with rfl | ⟨t, ht, candidate⟩
  · exact c.active
  · obtain ⟨role, owned, -⟩ := Thread.candidate_owned.mp candidate
    exact (c.owned_ne ht owned).1

/-- No runtime becomes a candidate but one that is allocated. -/
theorem candidates_step (m : Moved (machine env) w a w') {r : Rid} (hr : r ∈ w'.candidates)
    (lt : r < w.shared.allocated) : r ∈ w.candidates := by
  rcases mem_candidates.mp hr with rfl | ⟨t, ht, candidate⟩
  · rcases History.grows m with ⟨-, same⟩ | ⟨t, ht, new, swapping, -, runtime⟩
    · exact mem_candidates.mpr (.inl same)
    · refine mem_candidates.mpr (.inr ⟨t, ht, ?_⟩)
      rw [runtime]
      exact Thread.candidate_owned.mpr
        ⟨.pending, (Thread.swapping_owned swapping).1, .inr rfl⟩
  · cases World.origin m ht with
    | stayed mem => exact mem_candidates.mpr (.inr ⟨t, mem, candidate⟩)
    | moved u c mem fires =>
      rcases (Thread.step_move fires).candidate candidate with before | rfl
      · exact mem_candidates.mpr (.inr ⟨u, mem, before⟩)
      · exact absurd lt (Nat.lt_irrefl _)
    | started p => cases candidate
    | entered x fires =>
      cases enter_move fires with
      | reload rt => cases candidate; exact absurd lt (Nat.lt_irrefl _)
      | request | manager | shutdown => cases candidate

section
variable {i : Nat} {t t' : Thread} {new : List Thread} {sh' : Shared} {r : Rid} {b : Nat}

theorem Underway.step (h : Underway w r b) (hi : w.threads[i]? = some t)
    (other : t.updates ≠ some (r, b)) : Underway ⟨sh', w.threads.set i t' ++ new⟩ r b := by
  obtain ⟨u, hu, updates⟩ := h
  obtain ⟨j, hj⟩ := List.mem_iff_getElem?.mp hu
  have ne : i ≠ j := by
    rintro rfl
    cases hi.symm.trans hj
    exact other updates
  have stays : (w.threads.set i t')[j]? = some u := by rw [List.getElem?_set_ne ne, hj]
  exact ⟨u, List.mem_append_left _ (List.mem_of_getElem? stays), updates⟩

theorem Underway.begins (hi : w.threads[i]? = some t) (updates : t'.updates = some (r, b)) :
    Underway ⟨sh', w.threads.set i t' ++ new⟩ r b := by
  have lt : i < w.threads.length := (List.getElem?_eq_some_iff.mp hi).1
  exact ⟨t', List.mem_append_left _ (List.mem_of_getElem? (List.getElem?_set_self lt)), updates⟩

end

/-- A URL of one backend has one place. -/
theorem Runtime.Once.place {rt : Runtime} {x y : Backend} {b k : Nat} (once : rt.Once x.url)
    (hx : rt.backends[b]? = some x) (hy : rt.backends[k]? = some y) (same : y.url = x.url) :
    k = b := by
  have twice {i j : Nat} (lt : i < j) (hi : (rt.backends.map Backend.url)[i]? = some x.url)
      (hj : (rt.backends.map Backend.url)[j]? = some x.url) : False := by
    obtain ⟨li, ei⟩ := List.getElem?_eq_some_iff.mp hi
    obtain ⟨lj, ej⟩ := List.getElem?_eq_some_iff.mp hj
    have two := List.duplicate_iff_two_le_count.mp
      (List.duplicate_iff_exists_distinct_get.mpr ⟨⟨i, li⟩, ⟨j, lj⟩, lt, ei.symm, ej.symm⟩)
    rw [Runtime.Once] at once
    omega
  have at_x : (rt.backends.map Backend.url)[b]? = some x.url := by simp [hx]
  have at_y : (rt.backends.map Backend.url)[k]? = some x.url := by simp [hy, same]
  rcases Nat.lt_trichotomy k b with lt | eq | lt
  · exact (twice lt at_y at_x).elim
  · exact eq
  · exact (twice lt at_x at_y).elim

theorem Runtime.setHealthy_urls (rt : Runtime) (b : Nat) (val : Bool) :
    (rt.setHealthy b val).backends.map Backend.url = rt.backends.map Backend.url := by
  have same := congrArg (fun x : Runtime => x.backends.map Backend.url)
    (Runtime.setHealthy_still b val rt)
  simpa [Runtime.still, Function.comp_def] using same

/-- The flags and the gauge in one state. -/
structure Mirrored (w : World) : Prop where
  posted : Posted w
  observing : Observing w
  stored : ∀ t ∈ w.threads, ∀ p v, t = .prober p (.setGauge v) → Stored w.shared p v
  shown : ∀ r ∈ w.candidates, Shown w r

/-- A callback that is to set the gauge does set it, -/
theorem Mirrored.prober_observed (h : Mirrored w) {p : Prober} {v : Verdict} {x : Backend}
    (ht : .prober p (.setGauge v) ∈ w.threads)
    (there : (w.shared.heap p.rt).backends[p.backend]? = some x) :
    x.observabilityEnabled = true := by
  have placed := h.posted.placed ht (r := p.rt) (b := p.backend)
    (by simp [Thread.probes, ProberPC.active])
  exact (h.observing.runtimes p.rt placed.1).backends x (List.mem_of_getElem? there)

/-- and so does a build that adds a backend. -/
theorem Mirrored.builder_observed (h : Mirrored w) {cfg : Config} {rt : Rid}
    {todo : List BuildItem} {vars : BuildVars}
    (ht : .manager (.build cfg rt todo vars) ∈ w.threads) :
    (w.shared.heap rt).observabilityEnabled = true := by
  have allocated := (h.posted.consistent.owned_ne ht (r := rt) rfl).1
  exact (h.observing.runtimes rt allocated).runtime

section
variable {i : Nat} {t' : Thread} {c : Choice} {new : List Thread} {r : Rid}

theorem Mirrored.shown_store (h : Mirrored w) (hr : r ∈ w.candidates) {p : Prober} {v : Verdict}
    (hi : w.threads[i]? = some (.prober p (.setHealthy v))) :
    Shown ⟨w.shared.setRuntime p.rt (Runtime.setHealthy p.backend v.healthy),
      w.threads.set i (.prober p (.setGauge v)) ++ new⟩ r := by
  intro b x hx once
  have urls : ((w.shared.setRuntime p.rt
      (Runtime.setHealthy p.backend v.healthy)).heap r).backends.map Backend.url =
        (w.shared.heap r).backends.map Backend.url :=
    Shared.setRuntime_same r (·.backends.map Backend.url) (Runtime.setHealthy_urls _ _ _)
  by_cases own : r = p.rt ∧ b = p.backend
  · obtain ⟨rfl, rfl⟩ := own
    exact .inr (Underway.begins hi rfl)
  · rw [Shared.setHealthy_other _ _ (fun hp hb => own ⟨hp, hb⟩)] at hx
    rw [Runtime.Once, urls] at once
    rcases h.shown r hr b x hx once with gauge | under
    · exact .inl gauge
    · exact .inr (under.step hi (by rintro ⟨⟩))

/-- A write for another runtime, or for another URL. -/
theorem Mirrored.shown_foreign (h : Mirrored w) (hr : r ∈ w.candidates) {t : Thread} {sh' : Shared}
    {s : GaugeWrite} (hi : w.threads[i]? = some t) (agrees : Agreeing env w (.run i c))
    (sets : t.sets env w.shared c = some s) {b : Nat} {y : Backend}
    (up : sh'.metrics.backendUp y.url =
      if y.url = s.url then some s.healthy else w.shared.metrics.backendUp y.url)
    (hy : (w.shared.heap r).backends[b]? = some y) (once : (w.shared.heap r).Once y.url)
    (foreign : y.url = s.url → s.rt ≠ r) (other : t.updates ≠ some (r, b)) :
    sh'.metrics.backendUp y.url = some y.healthy ∨
      Underway ⟨sh', w.threads.set i t' ++ new⟩ r b := by
  have respects := agrees _ hi r hr b (List.getElem?_eq_some_iff.mp hy).1 y hy once
  by_cases same : y.url = s.url
  · rcases respects.1 s sets (foreign same) same.symm with eq | under
    · exact .inl (by rw [up, if_pos same, eq])
    · exact .inr (under.step hi other)
  · rcases h.shown r hr b y hy once with gauge | under
    · exact .inl (by rw [up, if_neg same, gauge])
    · exact .inr (under.step hi other)

theorem Mirrored.shown_expose (h : Mirrored w) (hr : r ∈ w.candidates) {p : Prober} {v : Verdict}
    {x : Backend} (hi : w.threads[i]? = some (.prober p (.setGauge v))) (calm : c ≠ .panic)
    (there : (w.shared.heap p.rt).backends[p.backend]? = some x)
    (agrees : Agreeing env w (.run i c)) :
    Shown ⟨w.shared.setMetrics (setBackendHealth { x with healthy := v.healthy }),
      w.threads.set i t' ++ new⟩ r := by
  intro b y hy once
  have ht := List.mem_of_getElem? hi
  have on := h.prober_observed ht there
  have up := setBackendHealth_up { x with healthy := v.healthy } w.shared.metrics on y.url
  by_cases own : y.url = x.url ∧ p.rt = r
  · -- the backend itself: it sets what it has stored
    obtain ⟨same, rfl⟩ := own
    obtain rfl := once.place hy there same.symm
    obtain rfl := Option.some.inj (there.symm.trans hy)
    refine .inl (up.trans ?_)
    rw [if_pos rfl, h.stored _ ht p v rfl x there]
  · have sets : (Thread.prober p (.setGauge v)).sets env w.shared c =
        some ⟨p.rt, x.url, v.healthy⟩ := by
      simp [Thread.sets, calm, there]
    refine h.shown_foreign hr hi agrees sets up hy once (fun same mine => own ⟨same, mine⟩) ?_
    rintro ⟨⟩
    cases there.symm.trans hy
    exact own ⟨rfl, rfl⟩

theorem Mirrored.shown_lose (h : Mirrored w) (hr : r ∈ w.candidates) {p : Prober} {v : Verdict}
    (hi : w.threads[i]? = some (.prober p (.setGauge v)))
    (agrees : Agreeing env w (.run i .panic)) : Shown ⟨w.shared, w.threads.set i t' ++ new⟩ r := by
  intro b y hy once
  have respects := agrees _ hi r hr b (List.getElem?_eq_some_iff.mp hy).1 y hy once
  by_cases own : (Thread.prober p (.setGauge v)).updates = some (r, b)
  · exact .inl (respects.2 rfl own)
  · rcases h.shown r hr b y hy once with gauge | under
    · exact .inl gauge
    · exact .inr (under.step hi own)

theorem Mirrored.shown_add (h : Mirrored w) (hr : r ∈ w.candidates) {cfg : Config} {rt : Rid}
    {service url : String} {todo : List BuildItem} {vars : BuildVars} {u : URL}
    (hi : w.threads[i]? = some (.manager (.build cfg rt (.upstream service url :: todo) vars)))
    (parsed : env.parse url = .ok u) (agrees : Agreeing env w (.run i c)) :
    Shown ⟨(w.shared.setRuntime rt (Runtime.addBackend url)).setMetrics
        (setBackendHealth ⟨url, true, (w.shared.heap rt).observabilityEnabled⟩),
      w.threads.set i t' ++ new⟩ r := by
  intro b y hy once
  have up := setBackendHealth_up ⟨url, true, (w.shared.heap rt).observabilityEnabled⟩
    w.shared.metrics (h.builder_observed (List.mem_of_getElem? hi)) y.url
  have sets : (Thread.manager (.build cfg rt (.upstream service url :: todo) vars)).sets env
      w.shared c = some ⟨rt, url, true⟩ := by
    simp [Thread.sets, parsed, Except.toOption]
  by_cases own : rt = r
  · subst own
    simp only [Shared.setMetrics_heap, Shared.setRuntime_heap, Function.update_self,
      Runtime.addBackend, Runtime.Once, List.map_append, List.map_singleton, List.count_append,
      List.count_singleton] at hy once
    by_cases short : b < (w.shared.heap rt).backends.length
    · rw [List.getElem?_append_left short] at hy
      -- the new backend has another URL, for this one occurs once
      have pos : 0 < ((w.shared.heap rt).backends.map Backend.url).count y.url :=
        List.count_pos_iff.mpr (List.mem_map_of_mem (List.mem_of_getElem? hy))
      have other : ¬ url = y.url := by
        intro same
        rw [if_pos (by simpa using same)] at once
        omega
      rw [if_neg (by simpa using other)] at once
      exact h.shown_foreign hr hi agrees sets up hy once (fun same => absurd same.symm other)
        (by rintro ⟨⟩)
    · rw [List.getElem?_append_right (Nat.not_lt.mp short)] at hy
      obtain rfl := List.mem_singleton.mp (List.mem_of_getElem? hy)
      exact .inl (up.trans (if_pos rfl))
  · have elsewhere : r ≠ rt := Ne.symm own
    simp only [Shared.setMetrics_heap, Shared.setRuntime_heap, ne_eq, elsewhere, not_false_eq_true,
      Function.update_of_ne] at hy once
    exact h.shown_foreign hr hi agrees sets up hy once (fun _ => own) (by rintro ⟨⟩)

end

theorem Shown.frame {r : Rid} (h : Shown w r)
    (backends : (w'.shared.heap r).backends = (w.shared.heap r).backends)
    (gauge : w'.shared.metrics.backendUp = w.shared.metrics.backendUp)
    (under : ∀ b, Underway w r b → Underway w' r b) : Shown w' r := by
  intro b x hx once
  rw [backends] at hx
  rw [Runtime.Once, backends] at once
  rw [gauge]
  exact (h b x hx once).imp_right (under b)

theorem Mirrored.step_shown (h : Mirrored w) (managed : Managed w a) (agrees : Agreeing env w a)
    (c : Consistent w') (m : Moved (machine env) w a w') : ∀ r ∈ w'.candidates, Shown w' r := by
  intro r hr
  have lt := c.candidate_lt hr
  have old := candidates_step m hr
  cases m with
  | @step i k t sh' t' new hi fires =>
    have spare (before : t.updates = none) (b : Nat) (under : Underway w r b) :
        Underway ⟨sh', w.threads.set i t' ++ new⟩ r b :=
      under.step hi (by rw [before]; rintro ⟨⟩)
    cases Thread.step_gauge fires with
    | store p v at_ to_ stored =>
      subst at_ to_ stored
      exact h.shown_store (old lt) hi
    | expose p v x at_ to_ calm there exposed =>
      subst at_ exposed
      exact h.shown_expose (old lt) hi calm there agrees
    | lose p v at_ to_ panics same =>
      subst at_ panics same
      exact h.shown_lose (old lt) hi agrees
    | add cfg rt service url todo vars u at_ parsed added =>
      subst at_ added
      exact h.shown_add (old lt) hi parsed agrees
    | allocate cfg tls at_ allocated =>
      subst at_ allocated
      by_cases new : r = w.shared.allocated
      · intro b x hx
        simp [new, TorusProxy.allocate, newRuntime] at hx
      · have before := old (Nat.lt_of_le_of_ne (Nat.le_of_lt_succ lt) new)
        exact (h.shown r before).frame (by simp [TorusProxy.allocate, new]) rfl (spare rfl)
    | other backends gauge allocated before =>
      have before' := old (allocated ▸ lt)
      exact (h.shown r before').frame (backends r) gauge (spare before)
  | @enter x sh' t fires =>
    have under (b : Nat) (h : Underway w r b) : Underway ⟨sh', w.threads ++ [t]⟩ r b := by
      obtain ⟨u, hu, updates⟩ := h
      exact ⟨u, List.mem_append_left _ hu, updates⟩
    cases enter_move fires with
    | reload rt => exact absurd rfl (managed rt)
    | request | manager | shutdown => exact (h.shown r (old lt)).frame rfl rfl under
  | change fires =>
    cases fires
    exact (h.shown r (old lt)).frame rfl rfl fun _ under => under

theorem Mirrored.step (h : Mirrored w) (managed : Managed w a) (observes : Observes env w a)
    (agrees : Agreeing env w a) (hs : World.step env w a = some w') : Mirrored w' :=
  have m := Machine.next_moved hs
  have posted := h.posted.step hs
  ⟨posted, ⟨h.observing.step_loaded observes m, h.observing.step_runtimes managed m⟩,
    h.posted.step_stored h.stored m, h.step_shown managed agrees posted.consistent m⟩

/-- A callback that is under way after a step was another goroutine's before. -/
theorem Underway.back {i : Nat} {t t' : Thread} {c : Choice} {new : List Thread} {sh' : Shared}
    {r : Rid} {b : Nat} (fires : t.step env w.shared c = some (sh', t', new))
    (after : t'.updates = none) (h : Underway ⟨sh', w.threads.set i t' ++ new⟩ r b) :
    ∃ j u, j ≠ i ∧ w.threads[j]? = some u ∧ u.updates = some (r, b) := by
  obtain ⟨u, hu, updates⟩ := h
  rcases mem_moved hu with rfl | started | ⟨j, hj, at_⟩
  · rw [after] at updates
    cases updates
  · obtain ⟨p, rfl⟩ := (Thread.step_move fires).starts u started
    cases updates
  · exact ⟨j, u, hj, at_, updates⟩

theorem Thread.updates_prober {t : Thread} {r : Rid} {b : Nat} (h : t.updates = some (r, b)) :
    ∃ p v, t = .prober p (.setGauge v) ∧ p.rt = r ∧ p.backend = b := by
  unfold Thread.updates at h
  split at h <;> cases h
  exact ⟨_, _, rfl, rfl, rfl⟩

/-- A write sets the gauge and leaves the backends of other runtimes alone. -/
theorem Mirrored.writes (h : Mirrored w) {i : Nat} {c : Choice} {t t' : Thread} {sh' : Shared}
    {new : List Thread} {s : GaugeWrite} (hi : w.threads[i]? = some t)
    (fires : t.step env w.shared c = some (sh', t', new))
    (sets : t.sets env w.shared c = some s) :
    sh'.metrics.backendUp s.url = some s.healthy ∧ t'.updates = none ∧
      ∀ r, s.rt ≠ r → (sh'.heap r).backends = (w.shared.heap r).backends := by
  have ht := List.mem_of_getElem? hi
  cases Thread.step_gauge fires with
  | expose p v x at_ to_ calm there exposed =>
    subst at_ to_ exposed
    have on := h.prober_observed ht there
    obtain rfl : (⟨p.rt, x.url, v.healthy⟩ : GaugeWrite) = s := by
      simpa [Thread.sets, calm, there] using sets
    refine ⟨?_, rfl, fun _ _ => rfl⟩
    exact (setBackendHealth_up { x with healthy := v.healthy } w.shared.metrics on x.url).trans
      (if_pos rfl)
  | add cfg rt service url todo vars u at_ parsed added after =>
    subst at_ added
    obtain rfl : (⟨rt, url, true⟩ : GaugeWrite) = s := by
      simpa [Thread.sets, parsed, Except.toOption] using sets
    refine ⟨?_, after, ?_⟩
    · exact (setBackendHealth_up _ w.shared.metrics (h.builder_observed ht) url).trans (if_pos rfl)
    · intro r other
      simp [Ne.symm other]
  | store p v at_ => subst at_; cases sets
  | lose p v at_ _ panics => subst at_ panics; cases sets
  | allocate cfg tls at_ => subst at_; cases sets
  | other _ _ _ _ _ silent => rw [silent] at sets; cases sets

/-- A step that leaves a candidate's gauge right respects it. -/
theorem Mirrored.respects (h : Mirrored w) {i : Nat} {c : Choice} {t : Thread}
    (hi : w.threads[i]? = some t) (hs : World.step env w (.run i c) = some w') {r : Rid} {b : Nat}
    {x : Backend} (hx : (w.shared.heap r).backends[b]? = some x)
    (once : (w.shared.heap r).Once x.url) (shown : Shown w' r) : Respects env w t c r b x := by
  cases Machine.next_moved hs with
  | @step _ _ _ sh' t' new at_ fires =>
    obtain rfl := Option.some.inj (hi.symm.trans at_)
    change t.step env w.shared c = some (sh', t', new) at fires
    refine ⟨?_, ?_⟩
    · intro s sets foreign same
      obtain ⟨up, after, backends⟩ := h.writes hi fires sets
      have still := backends r foreign
      rcases shown b x (by rw [still]; exact hx) (by rw [Runtime.Once, still]; exact once) with
        gauge | under
      · rw [same] at up
        exact .inl (Option.some.inj (gauge.symm.trans up))
      · obtain ⟨j, u, -, hj, updates⟩ := under.back fires after
        exact .inr ⟨u, List.mem_of_getElem? hj, updates⟩
    · intro panics updates
      obtain ⟨p, v, rfl, rfl, rfl⟩ := Thread.updates_prober updates
      cases Thread.step_gauge fires with
      | lose _ _ _ to_ _ same =>
        subst to_ same
        rcases shown p.backend x hx once with gauge | under
        · exact gauge
        · -- nobody else is to set the gauge for this backend
          obtain ⟨j, u, ne, hj, updates'⟩ := under.back fires rfl
          obtain ⟨q, v', rfl, hq, hb⟩ := Thread.updates_prober updates'
          exact absurd hb (h.posted.distinct (Ne.symm ne) hi hj rfl rfl hq)
      | expose _ _ _ _ _ calm => exact absurd panics calm
      | store _ _ at_ | add _ _ _ _ _ _ _ at_ | allocate _ _ at_ => cases at_
      | other _ _ _ before => cases before

/-- Runtime 0 as `BuildRuntime` leaves it: observed, with the gauge at its flags
and its probers outside their callbacks. -/
structure Introduced (w : World) : Prop where
  one : ∀ r b, total (Thread.probes r b) w.threads ≤ place r b w.shared
  observed : (w.shared.heap 0).Observed
  idle : ∀ p v, .prober p (.setGauge v) ∉ w.threads
  shown : ∀ x ∈ (w.shared.heap 0).backends, (w.shared.heap 0).Once x.url →
    w.shared.metrics.backendUp x.url = some x.healthy

theorem Introduced.mirrored {pc : StartPC} (h : Introduced w) (fresh : Fresh pc w)
    (free : pc.hold = .none) : Mirrored w := by
  refine ⟨⟨fresh.consistent free, h.one⟩, ⟨?_, ?_⟩, ?_, ?_⟩
  · intro t ht cfg reads
    rcases fresh.threads t ht with ⟨p, q, rfl, -⟩ | rfl <;> cases reads
  · intro r lt
    rw [fresh.allocated] at lt
    rw [Nat.lt_one_iff.mp lt]
    exact h.observed
  · rintro t ht p v rfl
    exact absurd ht (h.idle p v)
  · intro r hr
    have lt := (fresh.consistent free).candidate_lt hr
    rw [fresh.allocated] at lt
    intro b x hx once
    rw [Nat.lt_one_iff.mp lt] at hx once
    exact .inl (h.shown x (List.mem_of_getElem? hx) once)

/-- With observability enabled throughout, the gauge shows the health of the
active runtime's backends in every run in which each write of one runtime
agrees with the others that are active or may become so. A write that does not
agree leaves one of these wrong. -/
theorem backend_up_active {pc : StartPC} {w₀ : World} (init : Fresh pc w₀)
    (begun : pc = .load ∨ pc = .serving) (first : Introduced w₀)
    (r : Run env (fun v a => Managed v a ∧ Observes env v a ∧ Agreeing env v a) w₀ w) :
    ((∀ t ∈ w.threads, t.quiet = true) →
      ∀ x ∈ (w.shared.heap w.shared.server.runtime).backends,
        (w.shared.heap w.shared.server.runtime).Once x.url →
        w.shared.metrics.backendUp x.url = some x.healthy) ∧
    ∀ a w', World.step env w a = some w' → ¬ Agreeing env w a →
      ∃ q ∈ w.candidates, ¬ Shown w' q := by
  have free : pc.hold = .none := by
    rcases begun with rfl | rfl <;> rfl
  have mirrored := r.invariant Mirrored (first.mirrored init free)
    fun _ _ _ _ inv ok hs => inv.step ok.1 ok.2.1 ok.2.2 hs
  constructor
  · intro quiet x hx once
    obtain ⟨b, hb⟩ := List.mem_iff_getElem?.mp hx
    rcases mirrored.shown _ (mem_candidates.mpr (.inl rfl)) b x hb once with gauge | under
    · exact gauge
    · obtain ⟨t, ht, updates⟩ := under
      obtain ⟨p, v, rfl, -, -⟩ := Thread.updates_prober updates
      cases quiet _ ht
  · intro a w' hs late
    cases a with
    | run i c =>
      simp only [Agreeing, not_forall] at late
      obtain ⟨t, hi, q, hq, b, lt, x, hx, once, spoils⟩ := late
      exact ⟨q, hq, fun shown => spoils (mirrored.respects hi hs hx once shown)⟩
    | call | env => exact absurd trivial late

end

instance (w : World) (r : Rid) (b : Nat) : Decidable (Underway w r b) :=
  inferInstanceAs (Decidable (∃ t ∈ w.threads, t.updates = some (r, b)))

instance (env : Env) : ∀ w a, Decidable (Observes env w a)
  | w, .run i _ => inferInstanceAs (Decidable (w.threads[i]? = some (.manager .load) →
      ∀ cfg ∈ (loadConfig env w.shared.disk.config).toOption,
        cfg.observability.enabledValue = true))
  | _, .call _ => .isTrue trivial
  | _, .env _ => .isTrue trivial

instance (env : Env) (w : World) (t : Thread) (c : Choice) (r : Rid) (b : Nat) (x : Backend) :
    Decidable (Respects env w t c r b x) :=
  inferInstanceAs (Decidable ((∀ s ∈ t.sets env w.shared c, s.rt ≠ r → s.url = x.url →
    x.healthy = s.healthy ∨ Underway w r b) ∧
    (c = .panic → t.updates = some (r, b) →
      w.shared.metrics.backendUp x.url = some x.healthy)))

instance (env : Env) : ∀ w a, Decidable (Agreeing env w a)
  | w, .run i c => inferInstanceAs (Decidable (∀ t ∈ w.threads[i]?, ∀ r ∈ w.candidates,
      ∀ b < (w.shared.heap r).backends.length, ∀ x ∈ (w.shared.heap r).backends[b]?,
        (w.shared.heap r).Once x.url → Respects env w t c r b x))
  | _, .call _ => .isTrue trivial
  | _, .env _ => .isTrue trivial

/-- The sample after `NewBackend` has set the gauge. -/
def shownWorld : World :=
  ⟨sampleWorld.shared.setMetrics (setBackendHealth ⟨"http://10.0.0.1:9000", true, true⟩),
    sampleWorld.threads⟩

theorem shownWorld_fresh : Fresh .serving shownWorld :=
  have h := sampleWorld_running
  ⟨h.runtimeMu, h.handlers, h.shutdownDone, h.shutdownErr, h.runtime, h.allocated, h.installed,
    h.live, h.requests, h.workers, h.threads⟩

theorem shownWorld_introduced : Introduced shownWorld := by
  refine ⟨sampleWorld_probing.one, ⟨rfl, by decide⟩, ?_, by decide⟩
  intro p v
  simp [shownWorld, sampleWorld, World.serving, World.fresh]

/-- A probe of the first runtime is running when a managed reload swaps, and
ends as `c` says before the reload returns. -/
def probeAcrossReload (c : Choice) : List Action :=
  [.run 1 .go, .run 1 .tick, .call .manager] ++ goes 2 18 ++ [.run 1 c] ++ goes 1 3 ++
    [.run 1 .ctxDone] ++ goes 1 1 ++ goes 2 3

/-- The probe passes; then the prober of the new runtime finds the backend down. -/
theorem backend_up_active_passed :
    ∃ w, Run sampleEnv (fun v a => Managed v a ∧ Observes sampleEnv v a ∧ Agreeing sampleEnv v a)
        shownWorld w ∧
      w.shared.installed = [0, 1] ∧
      w.shared.metrics.backendUp "http://10.0.0.1:9000" = some false := by
  obtain ⟨w, r, quiet, installed, x, hx, once, url, down⟩ := Exec.exists_run_of_execWhile
    (World.step sampleEnv)
    (fun v a => Managed v a ∧ Observes sampleEnv v a ∧ Agreeing sampleEnv v a) shownWorld
    (probeAcrossReload .ok ++ [.run 3 .go, .run 3 .tick, .run 3 (.fail "refused")] ++ goes 3 3)
    (fun w => (∀ t ∈ w.threads, t.quiet = true) ∧ w.shared.installed = [0, 1] ∧
      ∃ x ∈ (w.shared.heap w.shared.server.runtime).backends,
        (w.shared.heap w.shared.server.runtime).Once x.url ∧ x.url = "http://10.0.0.1:9000" ∧
        x.healthy = false)
    (by decide +kernel)
  have gauge := (backend_up_active shownWorld_fresh (.inr rfl) shownWorld_introduced r).1 quiet x
    hx once
  rw [url, down] at gauge
  exact ⟨w, r, installed, gauge⟩

/-- The probe of the retiring runtime is cut off by its cancellation and takes
the gauge of the new runtime's healthy backend down. -/
theorem backend_up_stale :
    ¬ ∀ (env : Env) (w₀ w : World), Fresh .serving w₀ → Introduced w₀ →
      Run env (fun v a => Managed v a ∧ Observes env v a) w₀ w →
      (∀ t ∈ w.threads, t.quiet = true) →
      ∀ x ∈ (w.shared.heap w.shared.server.runtime).backends,
        (w.shared.heap w.shared.server.runtime).Once x.url →
        w.shared.metrics.backendUp x.url = some x.healthy := by
  intro all
  obtain ⟨w, r, quiet, x, hx, once, stale⟩ := Exec.exists_run_of_execWhile
    (World.step sampleEnv) (fun v a => Managed v a ∧ Observes sampleEnv v a) shownWorld
    (probeAcrossReload .interrupted)
    (fun w => (∀ t ∈ w.threads, t.quiet = true) ∧
      ∃ x ∈ (w.shared.heap w.shared.server.runtime).backends,
        (w.shared.heap w.shared.server.runtime).Once x.url ∧
        w.shared.metrics.backendUp x.url ≠ some x.healthy)
    (by decide +kernel)
  exact stale (all sampleEnv shownWorld w shownWorld_fresh shownWorld_introduced r quiet x hx once)

end TorusProxy
