import TorusProxy.Health
import TorusProxy.Blueprint

/-! When a request is turned away for want of a healthy backend. The routes and
services of a runtime are fixed once it is offered, so only the flags decide. -/
namespace TorusProxy

open Threads

/-- What routing reads of a runtime, without health and positions. -/
def Runtime.shape (rt : Runtime) : Router × List (List Nat) :=
  (rt.router, rt.services.map Service.backends)

theorem Runtime.blueprint_shape (rt : Runtime) : rt.blueprint.shape = rt.shape := by
  simp [Runtime.shape, Runtime.blueprint, Runtime.still, Function.comp_def]

/-! ## Healthy backends -/

/-- Every backend of every runtime is marked healthy. -/
def AllHealthy (sh : Shared) : Prop :=
  ∀ r, r < sh.allocated → ∀ x ∈ (sh.heap r).backends, x.healthy = true

/-- `Check` does not fail by itself. -/
def Thread.passes (c : Choice) : Thread → Bool
  | .prober _ .check => match c with
    | .fail _ => false
    | _ => true
  | _ => true

/-- Every probe that is not interrupted passes, or panics; and a runtime that is
handed to `Server.Reload` comes from the builder, with its backends healthy. -/
def Passing (w : World) : Action → Prop
  | .run i c => ∀ t ∈ w.threads[i]?, t.passes c = true
  | .call (.reload rt) => ∀ x ∈ rt.backends, x.healthy = true
  | _ => True

/-- The routing a request has done so far, with every backend healthy: it is in
the first turn of the loop, or found a service without backends. -/
def HandlerPC.Routed (sh : Shared) (req : Request) : HandlerPC → Prop
  | .next rt key svc i | .isHealthy rt key svc i _ =>
    i = 0 ∧ (sh.heap rt).shape.1.route req.path = (key, some svc)
  | .unavailable rt key => ∃ svc, (sh.heap rt).shape.1.route req.path = (key, some svc) ∧
    (sh.heap rt).shape.2[svc]? = some []
  | _ => True

structure Available (w : World) : Prop where
  probed : Probed w
  history : History w
  healthy : AllHealthy w.shared
  passed : ∀ t ∈ w.threads, ∀ p, t ≠ .prober p (.setHealthy .failed)
  held : ∀ t ∈ w.threads, ∀ req pc r, t = .request req pc → pc.acquired = some r →
    r ∈ w.shared.installed
  routed : ∀ t ∈ w.threads, ∀ req pc, t = .request req pc → pc.Routed w.shared req

theorem Runtime.setHealthy_mem {b : Nat} {rt : Runtime} (h : ∀ x ∈ rt.backends, x.healthy = true) :
    ∀ x ∈ (rt.setHealthy b true).backends, x.healthy = true := by
  intro x hx
  obtain ⟨i, hi⟩ := List.mem_iff_getElem?.mp hx
  simp only [Runtime.setHealthy, List.getElem?_modify] at hi
  obtain ⟨y, hy, rfl⟩ := Option.map_eq_some_iff.mp hi
  have before := h y (List.mem_of_getElem? hy)
  by_cases hb : b = i
  · simp [hb]
  · simpa [hb] using before

section
variable {env : Env} {w w' : World} {a : Action}

theorem Available.step_healthy (h : Available w) (passing : Passing w a)
    (m : Moved (machine env) w a w') : AllHealthy w'.shared := by
  have healthy := h.healthy
  cases m with
  | step at_ fires =>
    have ht := List.mem_of_getElem? at_
    cases Thread.step_health fires with
    | verdict p v _ _ _ same => exact same ▸ healthy
    | store p v here _ stored =>
      subst here stored
      intro r lt
      by_cases hr : r = p.rt
      · subst hr
        simp only [Shared.setRuntime_heap, Function.update_self]
        cases v with
        | passed => exact Runtime.setHealthy_mem (healthy _ lt)
        | failed => exact absurd rfl (h.passed _ ht p)
        | interrupted =>
          have off := h.probed.interrupted _ ht p rfl
          simp only [Verdict.healthy, off.setHealthy]
          exact healthy _ lt
      · simpa [hr] using healthy r lt
    | add rt backend _ on backends allocated =>
      intro r lt x hx
      rw [allocated] at lt
      rw [backends r] at hx
      by_cases hr : r = rt
      · subst hr
        rw [if_pos rfl] at hx
        rcases List.mem_append.mp hx with hx | hx
        · exact healthy r lt x hx
        · rw [List.mem_singleton.mp hx]
          exact on
      · rw [if_neg hr] at hx
        exact healthy r lt x hx
    | allocate backends allocated =>
      intro r lt x hx
      rw [backends r] at hx
      by_cases hr : r = w.shared.allocated
      · rw [if_pos hr] at hx
        cases hx
      · rw [if_neg hr] at hx
        rw [allocated, lt_succ_of_ne hr] at lt
        exact healthy r lt x hx
    | other backends allocated =>
      intro r lt x hx
      exact healthy r (allocated ▸ lt) x (backends r ▸ hx)
  | enter fires =>
    cases enter_move fires with
    | reload rt =>
      intro r lt x hx
      by_cases hr : r = w.shared.allocated
      · subst hr
        simp only [Function.update_self] at hx
        exact passing x hx
      · simp only [Function.update_of_ne hr] at hx
        exact healthy r ((lt_succ_of_ne hr).mp lt) x hx
    | request | manager | shutdown => exact healthy
  | change fires => cases fires; exact healthy

theorem Available.step_passed (h : Available w) (passing : Passing w a)
    (m : Moved (machine env) w a w') :
    ∀ t ∈ w'.threads, ∀ p, t ≠ .prober p (.setHealthy .failed) := by
  refine World.each m (fun t => ∀ p, t ≠ .prober p (.setHealthy .failed)) h.passed ?_ ?_ ?_
  · rintro i t c sh' _ new rfl hi inv fires p rfl
    cases Thread.step_health fires with
    | verdict q v hv here to_ =>
      cases to_
      subst here
      cases c with
      | fail message => exact absurd (passing _ hi) Bool.false_ne_true
      | _ => cases hv
    | store q v _ to_ => cases to_
    | add _ _ _ _ _ _ _ calm | allocate _ _ _ calm | other _ _ _ calm => exact calm p _ rfl
  · rintro q p ⟨⟩
  · intro x sh' t fires
    cases enter_move fires <;> rintro _ ⟨⟩

theorem Available.step_held (h : Available w) (m : Moved (machine env) w a w') :
    ∀ t ∈ w'.threads, ∀ req pc r, t = .request req pc → pc.acquired = some r →
      r ∈ w'.shared.installed := by
  have held : Held w := fun req pc r ht => h.held _ ht req pc r rfl
  rintro t ht req pc r rfl
  exact held.step h.history h.probed.consistent m req pc r ht

/-- The shape of a runtime that was installed is fixed. -/
theorem shape_stays (history : History w) (m : Moved (machine env) w a w') {r : Rid}
    (hr : r ∈ w.shared.installed) : (w'.shared.heap r).shape = (w.shared.heap r).shape := by
  have same := congrArg Runtime.shape (history.blueprint m hr)
  rwa [Runtime.blueprint_shape, Runtime.blueprint_shape] at same

theorem HandlerPC.Routed.of_shape {sh sh' : Shared} {req : Request} {pc : HandlerPC}
    (same : ∀ r, pc.holds = some r → (sh'.heap r).shape = (sh.heap r).shape)
    (h : pc.Routed sh req) : pc.Routed sh' req := by
  cases pc with
  | next rt key svc i | isHealthy rt key svc i b => exact ⟨h.1, same rt rfl ▸ h.2⟩
  | unavailable rt key =>
    obtain ⟨svc, found, empty⟩ := h
    exact ⟨svc, same rt rfl ▸ found, same rt rfl ▸ empty⟩
  | _ => trivial

/-- With its backends healthy, a request leaves the loop in the first turn. -/
theorem httpHandler_routed {req : Request} {sh sh' : Shared} {pc pc' : HandlerPC} {c : Choice}
    (h : httpHandler req sh c pc = some (sh', pc'))
    (healthy : ∀ rt, pc.holds = some rt → ∀ x ∈ (sh.heap rt).backends, x.healthy = true)
    (routed : pc.Routed sh req) : pc'.Routed sh req := by
  cases httpHandler_step h with
  | found rt key svc found => exact ⟨rfl, found⟩
  | draw =>
    obtain ⟨rfl, found⟩ := routed
    exact ⟨rfl, found⟩
  | exhausted rt key svc i s at_ none =>
    obtain ⟨rfl, found⟩ := routed
    refine ⟨svc, found, ?_⟩
    have empty : s.backends = [] := List.eq_nil_of_length_eq_zero (by omega)
    simp [Runtime.shape, at_, empty]
  | unhealthy rt key svc i b x at_ down =>
    exact absurd (healthy rt rfl x (List.mem_of_getElem? at_)) down
  | _ => trivial

theorem Available.step_routed (h : Available w) (m : Moved (machine env) w a w') :
    ∀ t ∈ w'.threads, ∀ req pc, t = .request req pc → pc.Routed w'.shared req := by
  have frame {req : Request} {pc : HandlerPC} (ht : Thread.request req pc ∈ w.threads) :
      ∀ r, pc.holds = some r → (w'.shared.heap r).shape = (w.shared.heap r).shape := by
    intro r holds
    exact shape_stays h.history m
      (h.held _ ht req pc r rfl (HandlerPC.acquired_of_holds holds))
  rintro t ht req pc rfl
  cases World.origin m ht with
  | stayed hm => exact (h.routed _ hm req pc rfl).of_shape (frame hm)
  | moved u c hm fires =>
    have move := Thread.step_move fires
    cases Thread.step_runs fires with
    | @request _ pc₀ _ runs =>
      have healthy (rt : Rid) (holds : pc₀.holds = some rt) :
          ∀ x ∈ (w.shared.heap rt).backends, x.healthy = true := by
        have mem := h.held _ hm req pc₀ rt rfl (HandlerPC.acquired_of_holds holds)
        exact h.healthy rt (h.history.allocated rt mem)
      have now := httpHandler_routed runs healthy (h.routed _ hm req pc₀ rfl)
      refine now.of_shape ?_
      intro r holds
      have mem : r ∈ w.shared.installed := by
        rcases move.holds holds with before | ⟨q, acquiring⟩
        · exact h.held _ hm req pc₀ r rfl (HandlerPC.acquired_of_holds before)
        · cases acquiring
          rw [h.probed.consistent.acquiring _ hm req _ rfl]
          exact h.history.active_mem
      exact shape_stays h.history m mem
  | entered x fires =>
    cases enter_move fires
    trivial

theorem Available.step (h : Available w) (gentle : Gentle w a) (passing : Passing w a)
    (hs : World.step env w a = some w') : Available w' :=
  have m := Machine.next_moved hs
  ⟨h.probed.step gentle hs, h.history.step h.probed.consistent hs, h.step_healthy passing m,
    h.step_passed passing m, h.step_held m, h.step_routed m⟩

end

/-- A server in service with its first runtime fresh from the builder: every
backend healthy, and one prober for it at most. -/
structure Probing (w : World) : Prop extends Running w where
  healthy : ∀ x ∈ (w.shared.heap 0).backends, x.healthy = true
  one : ∀ r b, total (Thread.probes r b) w.threads ≤ place r b w.shared
  quiet : ∀ p v, .prober p (.setHealthy v) ∉ w.threads

theorem Probing.probed {w : World} (h : Probing w) : Probed w := by
  refine ⟨h.toRunning.consistent, h.one, ?_⟩
  rintro t ht p rfl
  exact absurd ht (h.quiet p _)

theorem Probing.available {w : World} (h : Probing w) : Available w := by
  refine ⟨h.probed, h.toFresh.history, ?_, ?_, ?_, ?_⟩
  · intro r lt
    rw [h.allocated] at lt
    obtain rfl : r = 0 := Nat.lt_one_iff.mp lt
    exact h.healthy
  · rintro t ht p rfl
    exact h.quiet p _ ht
  · rintro t ht req pc r rfl
    rcases h.threads _ ht with ⟨p, q, hp, -⟩ | hp <;> cases hp
  · rintro t ht req pc rfl
    rcases h.threads _ ht with ⟨p, q, hp, -⟩ | hp <;> cases hp

/-- No request whose path leads to a service with backends is in the branch
that answers 503. -/
def NoneTurnedAway (w : World) : Prop :=
  ∀ req rt key, .request req (.unavailable rt key) ∈ w.threads →
    ∀ key' svc s, (w.shared.heap rt).router.route req.path = (key', some svc) →
      (w.shared.heap rt).services[svc]? = some s → s.backends = []

/-- The step that stores the verdict of an interrupted probe changes no flag. -/
def InterruptedHarmless (env : Env) (w : World) : Prop :=
  ∀ i c p w', w.threads[i]? = some (.prober p (.setHealthy .interrupted)) →
    World.step env w (.run i c) = some w' →
    ∀ r, (w'.shared.heap r).backends = (w.shared.heap r).backends

theorem Available.noneTurnedAway {w : World} (h : Available w) : NoneTurnedAway w := by
  intro req rt key ht key' svc s found hs
  obtain ⟨svc', found', empty⟩ := h.routed _ ht req _ rfl
  have same : some svc' = some svc := congrArg Prod.snd (found'.symm.trans found)
  cases same
  simp only [Runtime.shape, List.getElem?_map, hs, Option.map_some, Option.some.injEq] at empty
  exact empty

/-- As long as no probe of a healthy backend is interrupted by the retirement of
its runtime: interrupted probes change no flag, and where every other probe
passes no request is turned away. -/
theorem retirement_keeps_backends_healthy {env : Env} {w₀ w : World} (init : Probing w₀) :
    (Run env Gentle w₀ w → InterruptedHarmless env w) ∧
    (Run env (fun v a => Gentle v a ∧ Passing v a) w₀ w → NoneTurnedAway w) := by
  refine ⟨?_, ?_⟩
  · intro r i c p w' hi hs
    exact (init.probed.run (fun _ _ ok => ok) r).store_interrupted hi hs
  · intro r
    have available : Available w := r.invariant Available init.available
      fun _ _ _ _ inv ok hs => inv.step ok.1 ok.2 hs
    exact available.noneTurnedAway

/-! ## A probe in flight when its runtime is retired -/

instance (w : World) (a : Action) : Decidable (Gentle w a) := by
  unfold Gentle
  split
  · split <;> infer_instance
  · infer_instance

instance (w : World) : DecidablePred (Passing w)
  | .run i c => inferInstanceAs (Decidable (∀ t ∈ w.threads[i]?, t.passes c = true))
  | .call (.reload rt) => inferInstanceAs (Decidable (∀ x ∈ rt.backends, x.healthy = true))
  | .call (.request _) | .call .manager | .call .shutdown | .env _ => .isTrue trivial

theorem sampleWorld_probing : Probing sampleWorld := by
  refine ⟨sampleWorld_running, by decide, ?_, ?_⟩
  · intro r b
    by_cases h : r = 0 ∧ b = 0
    · obtain ⟨rfl, rfl⟩ := h
      decide
    · have none : total (Thread.probes r b) sampleWorld.threads = 0 := by
        have other : ¬ (0 = r ∧ 0 = b) := fun same => h ⟨same.1.symm, same.2.symm⟩
        simp [sampleWorld, World.serving, World.fresh, Thread.probes, ProberPC.active, other]
      rw [none]
      exact Nat.zero_le _
  · intro p v
    simp [sampleWorld, World.serving, World.fresh]

/-- A request has acquired runtime 0 when a reload cancels it; the probe in
flight is stored as a failure before the request asks for a backend. -/
def interruptedProbe : List Action :=
  [.call (.request ⟨"GET", bytes "/api"⟩)] ++ goes 2 5 ++ goes 1 1 ++ [.run 1 .tick] ++
    [.call (.reload { sampleRuntime with generation := 2 })] ++ goes 3 8 ++
    [.run 1 .interrupted] ++ goes 1 1 ++ goes 2 4

theorem retirement_turns_requests_away :
    ¬ ∀ (env : Env) (w₀ w : World), Probing w₀ →
      (Run env (fun _ _ => True) w₀ w → InterruptedHarmless env w) ∧
      (Run env Passing w₀ w → NoneTurnedAway w) := by
  intro claim
  obtain ⟨w, r, ht, found, hs⟩ := Exec.exists_run_of_execWhile (World.step sampleEnv) Passing
    sampleWorld interruptedProbe
    (fun w => .request ⟨"GET", bytes "/api"⟩ (.unavailable 0 (bytes "/api")) ∈ w.threads ∧
      (w.shared.heap 0).router.route (bytes "/api") = (bytes "/api", some 0) ∧
      (w.shared.heap 0).services[0]? = some ⟨[0], 1⟩)
    (by decide)
  cases (claim sampleEnv sampleWorld w sampleWorld_probing).2 r _ _ _ ht _ _ _ found hs

/-- The same, with the probe done before the runtime is cancelled. -/
theorem retirement_keeps_backends_healthy_sample :
    ∃ w, Run sampleEnv (fun v a => Gentle v a ∧ Passing v a) sampleWorld w ∧
      .request ⟨"GET", bytes "/api"⟩ (.forward 0 (bytes "/api") 0) ∈ w.threads ∧
      (w.shared.heap 0).cancelled = true ∧ NoneTurnedAway w := by
  obtain ⟨w, r, ht, hc⟩ := Exec.exists_run_of_execWhile (World.step sampleEnv)
    (fun v a => Gentle v a ∧ Passing v a) sampleWorld
    ([.call (.request ⟨"GET", bytes "/api"⟩)] ++ goes 2 5 ++ goes 1 1 ++ [.run 1 .tick, .run 1 .ok] ++
      goes 1 3 ++ [.call (.reload { sampleRuntime with generation := 2 })] ++ goes 3 8 ++ goes 2 3)
    (fun w => .request ⟨"GET", bytes "/api"⟩ (.forward 0 (bytes "/api") 0) ∈ w.threads ∧
      (w.shared.heap 0).cancelled = true)
    (by decide)
  exact ⟨w, r, ht, hc, (retirement_keeps_backends_healthy sampleWorld_probing).2 r⟩

end TorusProxy
