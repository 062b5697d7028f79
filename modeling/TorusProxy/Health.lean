import TorusProxy.History

/-! The health flags. They are written by probes and read by requests that may
still hold a runtime whose probes are being cancelled. -/
namespace TorusProxy

open Threads

/-! ## What a step does to the backends -/

/-- The goroutines that probe or are about to start a prober for this backend. -/
def Thread.probes (r : Rid) (b : Nat) : Thread → Nat
  | .prober p pc => if p.rt = r ∧ p.backend = b ∧ pc.active = true then 1 else 0
  | .manager (.startProber _ rt backend _ _) => if rt = r ∧ backend = b then 1 else 0
  | _ => 0

/-- One step of a prober, as far as backends go. -/
inductive ProbeMove (p : Prober) (sh : Shared) (c : Choice) :
    ProberPC → Shared → ProberPC → Bool → Prop
  | verdict (v : Verdict) (h : c.verdict = some v) :
      ProbeMove p sh c .check sh (.setHealthy v) false
  | store (v : Verdict) :
      ProbeMove p sh c (.setHealthy v)
        (sh.setRuntime p.rt (Runtime.setHealthy p.backend v.healthy)) (.setGauge v) false
  | restart : ProbeMove p sh c .register (startProber sh p.rt) .doneWorker true
  | other {sh' : Shared} {pc pc' : ProberPC}
      (backends : ∀ r, (sh'.heap r).backends = (sh.heap r).backends)
      (active : pc'.active = true → pc.active = true) (calm : ∀ v, pc' ≠ .setHealthy v) :
      ProbeMove p sh c pc sh' pc' false

theorem prober_probe {p : Prober} {sh sh' : Shared} {pc pc' : ProberPC} {c : Choice} {new : Bool}
    (h : prober p sh c pc = some (sh', pc', new)) : ProbeMove p sh c pc sh' pc' new := by
  cases prober_step h with
  | verdict v ends => exact .verdict v ends
  | store v => exact .store v
  | register => exact .restart
  | expose v x | lose v => exact .other (fun _ => rfl) (fun _ => rfl) (by rintro v ⟨⟩)
  | exit =>
    exact .other (fun r => Shared.setRuntime_same r Runtime.backends rfl) (by rintro ⟨⟩)
      (by rintro v ⟨⟩)
  | quiet active _ _ calm => exact .other (fun _ => rfl) (fun _ => active) fun v => (calm v).1

theorem httpHandler_backends {req : Request} {sh sh' : Shared} {pc pc' : HandlerPC} {c : Choice}
    (h : httpHandler req sh c pc = some (sh', pc')) (r : Rid) :
    (sh'.heap r).backends = (sh.heap r).backends := by
  cases httpHandler_step h with
  | rLock hm => exact Shared.tryMu_same (fun x => (x.heap r).backends) (fun _ => rfl) hm
  | acquire | draw | release => exact Shared.setRuntime_same r Runtime.backends rfl
  | _ => rfl

/-- Everything one step can do to backends and to those who probe them. -/
inductive HealthMove (sh : Shared) (t : Thread) (c : Choice) (sh' : Shared) (t' : Thread)
    (new : List Thread) : Prop
  | verdict (p : Prober) (v : Verdict) (h : c.verdict = some v) (at_ : t = .prober p .check)
      (to_ : t' = .prober p (.setHealthy v)) (same : sh' = sh) (none : new = [])
  | store (p : Prober) (v : Verdict) (at_ : t = .prober p (.setHealthy v))
      (to_ : t' = .prober p (.setGauge v))
      (stored : sh' = sh.setRuntime p.rt (Runtime.setHealthy p.backend v.healthy))
      (none : new = [])
  | add (rt : Rid) (backend : Backend) (owned : t.owned = some (rt, .building))
      (healthy : backend.healthy = true)
      (backends : ∀ r, (sh'.heap r).backends =
        if r = rt then (sh.heap rt).backends ++ [backend] else (sh.heap r).backends)
      (allocated : sh'.allocated = sh.allocated)
      (probes : ∀ r b, t.probes r b = 0 ∧
        t'.probes r b = if rt = r ∧ (sh.heap rt).backends.length = b then 1 else 0)
      (calm : ∀ p v, t' ≠ .prober p (.setHealthy v)) (none : new = [])
  | allocate (backends : ∀ r, (sh'.heap r).backends =
        if r = sh.allocated then [] else (sh.heap r).backends)
      (allocated : sh'.allocated = sh.allocated + 1) (probes : ∀ r b, t'.probes r b = 0)
      (calm : ∀ p v, t' ≠ .prober p (.setHealthy v)) (none : new = [])
  | other (backends : ∀ r, (sh'.heap r).backends = (sh.heap r).backends)
      (allocated : sh'.allocated = sh.allocated)
      (probes : ∀ r b, t'.probes r b + total (Thread.probes r b) new ≤ t.probes r b)
      (calm : ∀ p v, t' ≠ .prober p (.setHealthy v))

section
variable {env : Env} {sh sh' : Shared} {c : Choice}

/-- Whoever does not probe and leaves the backends alone. -/
theorem HealthMove.of_quiet {t t' : Thread}
    (backends : ∀ r, (sh'.heap r).backends = (sh.heap r).backends)
    (allocated : sh'.allocated = sh.allocated) (idle : ∀ r b, t'.probes r b = 0)
    (calm : ∀ p v, t' ≠ .prober p (.setHealthy v)) : HealthMove sh t c sh' t' [] := by
  refine .other backends allocated ?_ calm
  intro r b
  rw [idle r b]
  exact Nat.zero_le _

theorem ReloadMove.allocated {rt : Rid} {pc pc' : ReloadPC} (h : ReloadMove rt sh pc sh' pc') :
    sh'.allocated = sh.allocated := by
  rcases h.ownership with ⟨same, -⟩ | ⟨-, -, -, same, -⟩
  · exact same.allocated
  · exact same

theorem ProbeMove.health {p : Prober} {pc pc' : ProberPC} {new : Bool}
    (h : ProbeMove p sh c pc sh' pc' new) (allocated : sh'.allocated = sh.allocated) :
    HealthMove sh (.prober p pc) c sh' (.prober p pc')
      (if new then [.prober p .newTicker] else []) := by
  cases h with
  | verdict v hv => exact .verdict p v hv rfl rfl rfl rfl
  | store v => exact .store p v rfl rfl rfl rfl
  | restart =>
    refine .other (fun r => Shared.setRuntime_same r Runtime.backends rfl) allocated ?_ (by simp)
    intro r b
    simp [Thread.probes, ProberPC.active]
  | other backends active calm =>
    refine .other backends allocated ?_ (by rintro q v ⟨⟩; exact calm v rfl)
    intro r b
    simp only [Thread.probes, Bool.false_eq_true, ↓reduceIte, total_nil, Nat.add_zero]
    split
    · rename_i on
      exact Nat.le_of_eq (if_pos ⟨on.1, on.2.1, active on.2.2⟩).symm
    · exact Nat.zero_le _

theorem ManagerMove.health {pc pc' : ManagerPC} {q : Option Prober}
    (h : ManagerMove env sh pc sh' pc' q) :
    HealthMove sh (.manager pc) c sh' (.manager pc') (q.toList.map (.prober · .newTicker)) := by
  cases h with
  | allocate cfg tls =>
    refine .allocate ?_ rfl (fun _ _ => rfl) (by simp) rfl
    intro r
    by_cases hr : r = sh.allocated
    · subst hr; simp [TorusProxy.allocate, newRuntime]
    · simp [TorusProxy.allocate, hr]
  | backend cfg rt service url todo vars u hp =>
    refine .add rt ⟨url, true, (sh.heap rt).observabilityEnabled⟩ rfl rfl ?_ rfl ?_ (by simp) rfl
    · intro r
      by_cases hr : r = rt
      · subst hr; simp [Runtime.addBackend]
      · simp [hr]
    · intro r b
      exact ⟨rfl, rfl⟩
  | startProber cfg rt b todo vars =>
    refine .other (fun r => Shared.setRuntime_same r Runtime.backends rfl) rfl ?_ (by simp)
    intro r q
    simp [Thread.probes, ProberPC.active]
  | reload cfg rt move =>
    exact .of_quiet (fun r => move.heap_same r Runtime.backends (fun _ => rfl)) move.allocated
      (fun _ _ => rfl) (by simp)
  | stop cfg rt move =>
    exact .of_quiet (fun r => move.heap_same r Runtime.backends (fun _ => rfl)) move.fixed.allocated
      (fun _ _ => rfl) (by simp)
  | backendFailed | service | route =>
    exact .of_quiet (fun r => Shared.setRuntime_same r Runtime.backends rfl) rfl
      (fun _ _ => rfl) (by simp)
  | _ => exact .of_quiet (fun _ => rfl) rfl (fun _ _ => rfl) (by simp)

theorem Thread.step_health {t t' : Thread} {new : List Thread}
    (h : t.step env sh c = some (sh', t', new)) : HealthMove sh t c sh' t' new := by
  cases Thread.step_runs h with
  | request runs =>
    exact .of_quiet (httpHandler_backends runs) (httpHandler_move runs).fixed.allocated
      (fun _ _ => rfl) (by simp)
  | reload runs =>
    have move := reload_move runs
    exact .of_quiet (fun r => move.heap_same r Runtime.backends (fun _ => rfl)) move.allocated
      (fun _ _ => rfl) (by simp)
  | shutdown runs =>
    have move := shutdown_move runs
    exact .of_quiet (fun r => move.heap_same r Runtime.backends (fun _ => rfl))
      move.fixed.allocated (fun _ _ => rfl) (by simp)
  | start runs =>
    have move := start_move runs
    exact .of_quiet (fun r => move.heap_same r Runtime.backends (fun _ => rfl))
      move.fixed.allocated (fun _ _ => rfl) (by simp)
  | prober runs => exact (prober_probe runs).health (prober_move runs).fixed.allocated
  | manager runs => exact (managerReload_move runs).health

end

/-! ## One prober for a backend -/

/-- One for a backend of an allocated runtime. -/
def place (r : Rid) (b : Nat) (sh : Shared) : Nat :=
  if r < sh.allocated ∧ b < (sh.heap r).backends.length then 1 else 0

theorem place_eq {sh sh' : Shared} {r : Rid} (allocated : sh'.allocated = sh.allocated)
    (length : (sh'.heap r).backends.length = (sh.heap r).backends.length) (b : Nat) :
    place r b sh' = place r b sh := by
  simp only [place, allocated, length]

theorem Runtime.setHealthy_length (b : Nat) (val : Bool) (rt : Runtime) :
    (rt.setHealthy b val).backends.length = rt.backends.length := by
  simp [Runtime.setHealthy]

section
variable {env : Env} {w w' : World} {a : Action}

theorem probes_step (h : Consistent w) (m : Moved (machine env) w a w') (r : Rid) (b : Nat)
    (one : total (Thread.probes r b) w.threads ≤ place r b w.shared) :
    total (Thread.probes r b) w'.threads ≤ place r b w'.shared := by
  refine m.bound (Thread.probes r b) (place r b) one ?_ ?_ ?_
  · intro t c sh' t' new ht fires
    cases Thread.step_health fires with
    | verdict p v _ at_ to_ same none =>
      subst at_ to_ same none
      have active : Thread.probes r b (.prober p (.setHealthy v)) =
        Thread.probes r b (.prober p .check) := rfl
      rw [active, total_nil]
      omega
    | store p v at_ to_ stored none =>
      subst at_ to_ none
      have length : (sh'.heap r).backends.length = (w.shared.heap r).backends.length := by
        rw [stored]
        exact Shared.setRuntime_same r (·.backends.length) (Runtime.setHealthy_length _ _ _)
      have active : Thread.probes r b (.prober p (.setGauge v)) =
        Thread.probes r b (.prober p (.setHealthy v)) := rfl
      have allocated : sh'.allocated = w.shared.allocated := by rw [stored]; rfl
      rw [active, total_nil, place_eq allocated length]
      omega
    | add rt backend owned _ backends allocated probes _ none =>
      subst none
      have lt := (h.owned_ne ht owned).1
      obtain ⟨before, after⟩ := probes r b
      rw [before, after, total_nil]
      by_cases hr : rt = r
      · subst hr
        have now := backends rt
        rw [if_pos rfl] at now
        simp only [place, allocated, now, lt, true_and, List.length_append, List.length_singleton]
        by_cases hb : (w.shared.heap rt).backends.length = b
        · subst hb; simp
        · rw [if_neg hb]
          by_cases hl : b < (w.shared.heap rt).backends.length
          · simp [hl, Nat.lt_succ_of_lt hl]
          · simp [hl]
      · have now := backends r
        rw [if_neg (Ne.symm hr)] at now
        simp [place, allocated, now, hr]
    | allocate backends allocated probes _ none =>
      subst none
      rw [probes r b, total_nil]
      have now := backends r
      by_cases hr : r = w.shared.allocated
      · subst hr
        simp [place]
      · rw [if_neg hr] at now
        simp only [place, allocated, now, lt_succ_of_ne hr]
        omega
    | other backends allocated probes _ =>
      have le := probes r b
      rw [place_eq allocated (by rw [backends r])]
      omega
  · intro x sh' t fires
    cases enter_move fires with
    | reload rt =>
      by_cases hr : r = w.shared.allocated
      · subst hr
        simp [place, Thread.probes]
      · simp [place, Thread.probes, hr, lt_succ_of_ne hr]
    | request | manager | shutdown => exact Nat.le_refl _
  · intro disk sh' fires
    cases fires
    exact Nat.le_refl _

/-- Nobody probes a backend that is not there, and no two probe the same. -/
structure Posted (w : World) : Prop where
  consistent : Consistent w
  one : ∀ r b, total (Thread.probes r b) w.threads ≤ place r b w.shared

/-- A prober at work has its backend. -/
theorem Posted.placed (h : Posted w) {t : Thread} (ht : t ∈ w.threads) {r : Rid} {b : Nat}
    (on : t.probes r b = 1) :
    r < w.shared.allocated ∧ b < (w.shared.heap r).backends.length := by
  have le := Nat.le_trans (le_total (Thread.probes r b) ht) (h.one r b)
  rw [on, place] at le
  split at le
  · assumption
  · cases le

/-- Two goroutines at work probe two backends. -/
theorem Posted.distinct (h : Posted w) {i j : Nat} {p q : Prober} {pc qc : ProberPC} (hij : i ≠ j)
    (hi : w.threads[i]? = some (.prober p pc)) (hj : w.threads[j]? = some (.prober q qc))
    (on : pc.active = true) (on' : qc.active = true) (same : q.rt = p.rt) :
    q.backend ≠ p.backend := by
  intro hb
  have two := Nat.le_trans (add_le_total (Thread.probes p.rt p.backend) hij hi hj)
    (h.one p.rt p.backend)
  have le : place p.rt p.backend w.shared ≤ 1 := by unfold place; split <;> omega
  simp only [Thread.probes, same, hb, on, on', and_self, ↓reduceIte] at two
  omega

/-- A store leaves the other backends alone. -/
theorem Shared.setHealthy_other (sh : Shared) {r q : Rid} {b k : Nat} (val : Bool)
    (other : r = q → b ≠ k) :
    ((sh.setRuntime q (Runtime.setHealthy k val)).heap r).backends[b]? =
      (sh.heap r).backends[b]? := by
  by_cases hr : r = q
  · subst hr
    have ne := Ne.symm (other rfl)
    simp [Runtime.setHealthy, ne]
  · simp [hr]

theorem Posted.step (h : Posted w) (hs : World.step env w a = some w') : Posted w' :=
  ⟨h.consistent.step hs,
    fun r b => probes_step h.consistent (Machine.next_moved hs) r b (h.one r b)⟩

theorem Posted.run {ok : World → Action → Prop} (h : Posted w) (r : Run env ok w w') :
    Posted w' :=
  r.invariant Posted h fun _ _ _ _ inv _ hs => inv.step hs

/-! ## Interrupted probes -/

/-- The backend of this prober is marked unhealthy. -/
def Unhealthy (sh : Shared) (p : Prober) : Prop :=
  ∀ x ∈ (sh.heap p.rt).backends[p.backend]?, x.healthy = false

instance (sh : Shared) (p : Prober) : Decidable (Unhealthy sh p) :=
  inferInstanceAs (Decidable (∀ x ∈ (sh.heap p.rt).backends[p.backend]?, x.healthy = false))

/-- `Check` fails with the cancellation of its own runtime only where the
backend is marked unhealthy already. -/
def Gentle (w : World) : Action → Prop
  | .run i .interrupted =>
    match w.threads[i]? with
    | some (.prober p .check) => Unhealthy w.shared p
    | _ => True
  | _ => True

structure Probed (w : World) : Prop where
  consistent : Consistent w
  one : ∀ r b, total (Thread.probes r b) w.threads ≤ place r b w.shared
  interrupted : ∀ t ∈ w.threads, ∀ p, t = .prober p (.setHealthy .interrupted) →
    Unhealthy w.shared p

theorem Unhealthy.of_same {sh sh' : Shared} {p : Prober}
    (same : (sh'.heap p.rt).backends = (sh.heap p.rt).backends) (h : Unhealthy sh p) :
    Unhealthy sh' p := by
  intro x hx
  exact h x (same ▸ hx)

theorem Probed.posted (h : Probed w) : Posted w := ⟨h.consistent, h.one⟩

theorem probes_storing (p : Prober) (v : Verdict) :
    Thread.probes p.rt p.backend (.prober p (.setHealthy v)) = 1 := by
  simp [Thread.probes, ProberPC.active]

theorem Probed.step_interrupted (h : Probed w) (gentle : Gentle w a)
    (m : Moved (machine env) w a w') :
    ∀ t ∈ w'.threads, ∀ p, t = .prober p (.setHealthy .interrupted) → Unhealthy w'.shared p := by
  refine World.assertion m (fun sh t => ∀ p, t = .prober p (.setHealthy .interrupted) →
    Unhealthy sh p) h.interrupted ?_ ?_ ?_ ?_ ?_
  · rintro i t c sh' _ new rfl hi inv fires p rfl
    cases Thread.step_health fires with
    | verdict q v hv at_ to_ same =>
      cases to_
      subst at_ same
      cases c with
      | interrupted => simpa only [Gentle, hi] using gentle
      | _ => cases hv
    | store q v _ to_ => cases to_
    | add _ _ _ _ _ _ _ calm | allocate _ _ _ calm | other _ _ _ calm => exact absurd rfl (calm p _)
  · rintro i j t u c sh' t' new rfl hij hi hj fires inv p rfl
    have unhealthy := inv p rfl
    have hu := List.mem_of_getElem? hj
    obtain ⟨lt, short⟩ := h.posted.placed hu (probes_storing p .interrupted)
    cases Thread.step_health fires with
    | verdict q v _ _ _ same => exact same ▸ unhealthy
    | store q v at_ to_ stored =>
      subst at_ stored
      -- two probers at the same backend would be one too many
      intro x hx
      rw [Shared.setHealthy_other _ _ (h.posted.distinct hij hi hj rfl rfl)] at hx
      exact unhealthy x hx
    | add rt backend owned _ backends =>
      have now := backends p.rt
      by_cases hr : p.rt = rt
      · rw [if_pos hr, ← hr] at now
        intro x hx
        rw [now, List.getElem?_append_left short] at hx
        exact unhealthy x hx
      · rw [if_neg hr] at now
        exact unhealthy.of_same now
    | allocate backends =>
      have now := backends p.rt
      rw [if_neg (Nat.ne_of_lt lt)] at now
      exact unhealthy.of_same now
    | other backends => exact unhealthy.of_same (backends p.rt)
  · rintro sh' q p ⟨⟩
  · intro x sh' t fires
    cases enter_move fires with
    | reload rt =>
      refine ⟨by rintro p ⟨⟩, ?_⟩
      rintro u hu inv p rfl
      have lt := (h.posted.placed hu (probes_storing p .interrupted)).1
      exact (inv p rfl).of_same (by simp [Nat.ne_of_lt lt])
    | request | manager | shutdown => exact ⟨by rintro p ⟨⟩, fun _ _ inv => inv⟩
  · intro disk u inv
    exact inv

theorem Probed.step (h : Probed w) (gentle : Gentle w a) (hs : World.step env w a = some w') :
    Probed w' :=
  have m := Machine.next_moved hs
  have posted := h.posted.step hs
  ⟨posted.consistent, posted.one, h.step_interrupted gentle m⟩

theorem Probed.run {ok : World → Action → Prop} (imp : ∀ v b, ok v b → Gentle v b) (h : Probed w)
    (r : Run env ok w w') : Probed w' :=
  r.invariant Probed h fun _ _ _ _ inv hok hs => inv.step (imp _ _ hok) hs

/-- Marking an unhealthy backend unhealthy changes nothing. -/
theorem Unhealthy.setHealthy {sh : Shared} {p : Prober} (h : Unhealthy sh p) :
    ((sh.heap p.rt).setHealthy p.backend false).backends = (sh.heap p.rt).backends := by
  apply List.ext_getElem?
  intro i
  simp only [Runtime.setHealthy, List.getElem?_modify]
  by_cases hi : p.backend = i
  · subst hi
    cases hx : (sh.heap p.rt).backends[p.backend]? with
    | none => rfl
    | some x =>
      have off := h x hx
      cases x
      simp_all
  · simp [hi]

/-- The store of an interrupted probe leaves every flag as it was. -/
theorem Probed.store_interrupted (h : Probed w) {i : Nat} {c : Choice} {p : Prober}
    (hi : w.threads[i]? = some (.prober p (.setHealthy .interrupted)))
    (hs : World.step env w (.run i c) = some w') (r : Rid) :
    (w'.shared.heap r).backends = (w.shared.heap r).backends := by
  have unhealthy := h.interrupted _ (List.mem_of_getElem? hi) p rfl
  cases Machine.next_moved hs with
  | step at_ fires =>
    have step := Thread.step_runs fires
    obtain rfl := Option.some.inj (hi.symm.trans at_)
    cases step with
    | prober runs =>
      cases prober_probe runs with
      | store => exact Shared.setRuntime_same r Runtime.backends unhealthy.setHealthy
      | other backends => exact backends r

end

end TorusProxy
