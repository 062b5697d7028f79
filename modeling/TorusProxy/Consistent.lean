import TorusProxy.Frames

/-! The bookkeeping that every step of every goroutine keeps: the lock is held
by those inside its sections, each wait group counts its members, and every
runtime that is not active has exactly one goroutine that answers for it. -/
namespace TorusProxy

open Threads

/-- One when the thread names this runtime. -/
def names (r : Rid) (o : Option Rid) : Nat := if o = some r then 1 else 0

@[simp] theorem names_none (r : Rid) : names r none = 0 := rfl

@[simp] theorem names_self (r : Rid) : names r (some r) = 1 := by simp [names]

theorem names_of_ne {r q : Rid} (h : q ≠ r) : names r (some q) = 0 := by simp [names, h]

theorem names_pos {r : Rid} {o : Option Rid} (h : 0 < names r o) : o = some r := by
  unfold names at h
  split at h
  · assumption
  · cases h

theorem lt_succ_of_ne {n m : Nat} (h : n ≠ m) : n < m + 1 ↔ n < m := by omega

def owns (r : Rid) (t : Thread) : Nat := names r (t.owned.map Prod.fst)

/-- One for a runtime that some goroutine has to answer for. -/
def ownable (r : Rid) (sh : Shared) : Nat :=
  if r < sh.allocated ∧ r ≠ sh.server.runtime then 1 else 0

structure Consistent (w : World) : Prop where
  readers : w.shared.server.runtimeMu.readers = total (·.hold.reads) w.threads
  announced : w.shared.server.runtimeMu.pending.toNat = total (·.hold.announces) w.threads
  writer : w.shared.server.runtimeMu.writer.toNat = total (·.hold.writes) w.threads
  active : w.shared.server.runtime < w.shared.allocated
  owners : ∀ r, ownable r w.shared = total (owns r) w.threads
  /-- A request between its load and its acquire has the active runtime. -/
  acquiring : ∀ t ∈ w.threads, ∀ req rt, t = .request req (.acquire rt) →
    rt = w.shared.server.runtime
  requests : ∀ r, (w.shared.heap r).requestWG = total (fun t => names r t.holds) w.threads
  workers : ∀ r, (w.shared.heap r).workerWG = total (fun t => names r t.works) w.threads
  handlers : w.shared.server.srv.handlers = total (·.inFlight) w.threads
  /-- Nothing refers to a runtime that is not allocated yet. -/
  refers : ∀ t ∈ w.threads, ∀ r, t.holds = some r ∨ t.works = some r → r < w.shared.allocated

namespace Consistent

variable {env : Env} {w w' : World} {a : Action}

/-! ## Consequences in one state -/

theorem owned_ne (h : Consistent w) {t : Thread} (ht : t ∈ w.threads) {r : Rid} {role : Role}
    (owned : t.owned = some (r, role)) : r < w.shared.allocated ∧ r ≠ w.shared.server.runtime := by
  have le := le_total (owns r) ht
  rw [← h.owners r] at le
  simp only [owns, owned, Option.map_some, names_self, ownable] at le
  split at le
  · assumption
  · omega

theorem owner_unique (h : Consistent w) {i j : Nat} {t u : Thread} {r : Rid} {a b : Role}
    (hi : w.threads[i]? = some t) (hj : w.threads[j]? = some u) (ht : t.owned = some (r, a))
    (hu : u.owned = some (r, b)) : i = j := by
  have le : total (owns r) w.threads ≤ 1 := by
    rw [← h.owners r]
    unfold ownable
    split <;> omega
  exact unique_of_total_le_one le hi hj (by simp [owns, ht]) (by simp [owns, hu])

/-- A runtime that is not active is answered for. -/
theorem exists_owner (h : Consistent w) {r : Rid} (lt : r < w.shared.allocated)
    (ne : r ≠ w.shared.server.runtime) : ∃ t ∈ w.threads, ∃ role, t.owned = some (r, role) := by
  have pos : 0 < total (owns r) w.threads := by
    rw [← h.owners r, ownable, if_pos ⟨lt, ne⟩]
    exact Nat.one_pos
  obtain ⟨t, ht, hp⟩ := exists_of_total_pos pos
  obtain ⟨⟨q, role⟩, owned, rfl⟩ := Option.map_eq_some_iff.mp (names_pos hp)
  exact ⟨t, ht, role, owned⟩

theorem writer_excludes_readers (h : Consistent w) {t u : Thread} (ht : t ∈ w.threads)
    (hu : u ∈ w.threads) (writes : t.hold = .writer) : u.hold ≠ .reader := by
  have one := le_total (·.hold.writes) ht
  rw [← h.writer] at one
  have held : w.shared.server.runtimeMu.writer = true := by
    cases hw : w.shared.server.runtimeMu.writer
    · simp [writes, hw, RWMutex.Hold.writes] at one
    · rfl
  have none := w.shared.server.runtimeMu.excludes held
  rw [h.readers, total_eq_zero] at none
  intro reads
  have := none u hu
  simp [reads, RWMutex.Hold.reads] at this

theorem writer_unique (h : Consistent w) {i j : Nat} {t u : Thread} (hi : w.threads[i]? = some t)
    (hj : w.threads[j]? = some u) (ht : t.hold = .writer) (hu : u.hold = .writer) : i = j := by
  have le : total (·.hold.writes) w.threads ≤ 1 := by
    rw [← h.writer]
    exact Bool.toNat_le _
  exact unique_of_total_le_one le hi hj (by simp [ht, RWMutex.Hold.writes])
    (by simp [hu, RWMutex.Hold.writes])

theorem holds_le (h : Consistent w) {t : Thread} (ht : t ∈ w.threads) {r : Rid}
    (holds : t.holds = some r) : 0 < (w.shared.heap r).requestWG := by
  have le := le_total (fun t => names r t.holds) ht
  rw [← h.requests r] at le
  simp only [holds, names_self] at le
  exact le

theorem works_le (h : Consistent w) {t : Thread} (ht : t ∈ w.threads) {r : Rid}
    (works : t.works = some r) : 0 < (w.shared.heap r).workerWG := by
  have le := le_total (fun t => names r t.works) ht
  rw [← h.workers r] at le
  simp only [works, names_self] at le
  exact le

theorem fresh (h : Consistent w) {r : Rid} (hr : w.shared.allocated ≤ r) :
    (w.shared.heap r).requestWG = 0 ∧ (w.shared.heap r).workerWG = 0 := by
  rw [h.requests, h.workers, total_eq_zero, total_eq_zero]
  have zero (t : Thread) (o : Option Rid) (lt : o = some r → r < w.shared.allocated) :
      names r o = 0 := by
    unfold names
    split
    · rename_i ho
      exact absurd (lt ho) (Nat.not_lt.mpr hr)
    · rfl
  exact ⟨fun t ht => zero t _ fun ho => h.refers t ht r (.inl ho),
    fun t ht => zero t _ fun ho => h.refers t ht r (.inr ho)⟩

/-! ## Preservation -/

/-- The three counters of the lock. -/
theorem lock_counter (weight : RWMutex.Hold → Nat) (count : RWMutex → Nat)
    (idle : weight .none = 0) (m : Moved (machine env) w a w')
    (turn : ∀ (mu mu' : RWMutex) (x y : RWMutex.Hold), RWMutex.Turn mu mu' x y →
      weight x ≤ count mu → count mu' + weight x = count mu + weight y)
    (inv : count w.shared.server.runtimeMu = total (fun t => weight t.hold) w.threads) :
    count w'.shared.server.runtimeMu = total (fun t => weight t.hold) w'.threads := by
  refine m.counter (fun t => weight t.hold) (fun sh => count sh.server.runtimeMu) inv ?_ ?_ ?_
  · intro t c sh' t' new _ own fires
    have move := Thread.step_move fires
    have started : total (fun t => weight t.hold) new = 0 := by
      apply total_eq_zero.mpr
      intro n hn
      obtain ⟨p, rfl⟩ := move.starts n hn
      exact idle
    have := turn _ _ _ _ move.turn own
    omega
  · intro x sh' t fires
    cases enter_move fires <;> simp [Thread.hold, HandlerPC.hold, ReloadPC.hold, ManagerPC.hold,
      ShutdownPC.hold, idle]
  · intro disk sh' fires
    cases fires
    rfl

theorem step_readers (h : Consistent w) (m : Moved (machine env) w a w') :
    w'.shared.server.runtimeMu.readers = total (·.hold.reads) w'.threads :=
  lock_counter RWMutex.Hold.reads RWMutex.readers rfl m (fun _ _ _ _ turn own => turn.reads own)
    h.readers

theorem step_announced (h : Consistent w) (m : Moved (machine env) w a w') :
    w'.shared.server.runtimeMu.pending.toNat = total (·.hold.announces) w'.threads :=
  lock_counter RWMutex.Hold.announces (·.pending.toNat) rfl m
    (fun _ _ _ _ turn own => turn.announces own) h.announced

theorem step_writer (h : Consistent w) (m : Moved (machine env) w a w') :
    w'.shared.server.runtimeMu.writer.toNat = total (·.hold.writes) w'.threads :=
  lock_counter RWMutex.Hold.writes (·.writer.toNat) rfl m
    (fun _ _ _ _ turn own => turn.writes own) h.writer

theorem step_active (h : Consistent w) (m : Moved (machine env) w a w') :
    w'.shared.server.runtime < w'.shared.allocated := by
  have active := h.active
  cases m with
  | step at_ fires =>
    rcases (Thread.step_move fires).ownership with ⟨fixed, -⟩ |
      ⟨new, swapping, runtime, -, allocated, -⟩ | ⟨-, -, runtime, -, allocated⟩
    · simpa only [fixed.runtime, fixed.allocated] using active
    · have owned := h.owned_ne (List.mem_of_getElem? at_) (Thread.swapping_owned swapping).1
      simpa only [runtime, allocated] using owned.1
    · simp only [runtime, allocated]
      exact Nat.lt_succ_of_lt active
  | enter fires =>
    cases enter_move fires with
    | reload => exact Nat.lt_succ_of_lt active
    | request | manager | shutdown => exact active
  | change fires => cases fires; exact active

theorem step_owners (h : Consistent w) (m : Moved (machine env) w a w') (r : Rid) :
    ownable r w'.shared = total (owns r) w'.threads := by
  refine m.counter (owns r) (ownable r) (h.owners r) ?_ ?_ ?_
  · intro t c sh' t' new ht own fires
    have move := Thread.step_move fires
    have started : total (owns r) new = 0 := by
      apply total_eq_zero.mpr
      intro n hn
      obtain ⟨p, rfl⟩ := move.starts n hn
      rfl
    rcases move.ownership with ⟨fixed, owned⟩ | ⟨q, swapping, runtime, -, allocated, owned⟩ |
      ⟨owned, owned', runtime, -, allocated⟩
    · simp only [ownable, fixed.runtime, fixed.allocated, owns, owned, started]
      omega
    · obtain ⟨pending, -⟩ := Thread.swapping_owned swapping
      obtain ⟨lt, ne⟩ := h.owned_ne ht pending
      have active := h.active
      simp only [ownable, runtime, allocated, owns, owned, pending, Option.map_some, started]
      by_cases hq : r = q
      · subst hq
        simp [lt, ne, names_of_ne (Ne.symm ne)]
      · by_cases ho : r = w.shared.server.runtime
        · subst ho
          simp [active, hq, names_of_ne (Ne.symm hq)]
        · simp [hq, ho, names_of_ne (Ne.symm hq), names_of_ne (Ne.symm ho)]
    · have active := h.active
      simp only [ownable, runtime, allocated, owns, owned, owned', Option.map_some,
        Option.map_none, names_none, started]
      by_cases hr : r = w.shared.allocated
      · subst hr
        simp [Nat.ne_of_gt active]
      · simp [lt_succ_of_ne hr, names_of_ne (Ne.symm hr)]
  · intro x sh' t fires
    have active := h.active
    cases enter_move fires with
    | reload rt =>
      simp only [ownable, owns, Thread.owned, ReloadPC.owned, Option.map_some]
      by_cases hr : r = w.shared.allocated
      · subst hr
        simp [Nat.ne_of_gt active]
      · simp [lt_succ_of_ne hr, names_of_ne (Ne.symm hr)]
    | request | manager | shutdown => rfl
  · intro disk sh' fires
    cases fires
    rfl

theorem step_acquiring (h : Consistent w) (m : Moved (machine env) w a w') :
    ∀ t ∈ w'.threads, ∀ req rt, t = .request req (.acquire rt) →
      rt = w'.shared.server.runtime := by
  refine m.assertion (fun sh t => ∀ req rt, t = .request req (.acquire rt) →
    rt = sh.server.runtime) h.acquiring ?_ ?_ ?_ ?_
  · intro i t c sh' t' new _ _ _ fires
    have move := Thread.step_move fires
    refine ⟨?_, ?_⟩
    · rintro req rt rfl
      cases move with
      | request _ move =>
        cases move with
        | load => rfl
        | inner q _ _ _ holds' _ => cases holds'
    · intro n hn req rt hn'
      obtain ⟨p, rfl⟩ := move.starts n hn
      cases hn'
  · rintro i j t _ c sh' t' new _ _ hi hj fires inv req rt rfl
    rcases (Thread.step_move fires).ownership with ⟨fixed, -⟩ | ⟨new, swapping, -, -, -, -⟩ |
      ⟨-, -, runtime, -, -⟩
    · exact (inv req rt rfl).trans fixed.runtime.symm
    · exact absurd rfl (h.writer_excludes_readers (List.mem_of_getElem? hi)
        (List.mem_of_getElem? hj) (Thread.swapping_owned swapping).2)
    · exact (inv req rt rfl).trans runtime.symm
  · intro x sh' t _ fires
    cases enter_move fires <;> exact ⟨by rintro _ _ ⟨⟩, fun _ _ inv => inv⟩
  · intro disk sh' fires _ _ inv
    cases fires
    exact inv

theorem handler_requests {sh sh' : Shared} {pc pc' : HandlerPC}
    (move : HandlerMove sh pc sh' pc') (r : Rid)
    (own : names r pc.holds ≤ (sh.heap r).requestWG) :
    (sh'.heap r).requestWG + names r pc.holds = (sh.heap r).requestWG + names r pc'.holds := by
  cases move with
  | rLock h =>
    obtain ⟨m, -, rfl⟩ := Shared.tryMu_eq_some.mp h
    rfl
  | load => rfl
  | acquire rt =>
    by_cases hr : r = rt
    · subst hr; simp [HandlerPC.holds]
    · simp [HandlerPC.holds, hr, names_of_ne (Ne.symm hr)]
  | rUnlock rt => rfl
  | inner q _ _ holds holds' still => rw [still.requestWG, holds, holds']
  | release rt =>
    by_cases hr : r = rt
    · subst hr
      simp only [HandlerPC.holds, names_self] at own
      simp only [Shared.setRuntime_heap, Function.update_self, HandlerPC.holds, names_self,
        names_none]
      omega
    · simp [HandlerPC.holds, hr, names_of_ne (Ne.symm hr)]
  | exit rt => rfl

/-- Probers are the only threads a step starts, and they hold no runtime. -/
theorem started_zero {sh sh' : Shared} {t t' : Thread} {new : List Thread}
    (move : ThreadMove env sh t sh' t' new) (g : Thread → Nat)
    (idle : ∀ p, g (.prober p .newTicker) = 0) : total g new = 0 := by
  apply total_eq_zero.mpr
  intro n hn
  obtain ⟨p, rfl⟩ := move.starts n hn
  exact idle p

theorem step_requests (h : Consistent w) (m : Moved (machine env) w a w') (r : Rid) :
    (w'.shared.heap r).requestWG = total (fun t => names r t.holds) w'.threads := by
  refine m.counter (fun t => names r t.holds) (fun sh => (sh.heap r).requestWG) (h.requests r)
    ?_ ?_ ?_
  · intro t c sh' t' new ht own fires
    have move := Thread.step_move fires
    rw [started_zero move _ (fun _ => rfl)]
    cases move with
    | request req move => exact handler_requests move r own
    | reload new move => rw [move.heap_same r Runtime.requestWG (fun _ => rfl)]; rfl
    | manager move =>
      rw [move.heap_same Runtime.requestWG (fun _ => rfl) (fun _ => rfl) (fun _ _ => rfl)
        (fun _ _ => rfl) (fun _ _ _ => rfl) r
        (fun hr _ _ _ _ => (h.fresh (Nat.le_of_eq hr.symm)).1.symm)]
      rfl
    | shutdown move => rw [move.heap_same r Runtime.requestWG (fun _ => rfl)]; rfl
    | start move => rw [move.heap_same r Runtime.requestWG (fun _ => rfl)]; rfl
    | prober p move => rw [move.requestWG]; rfl
  · intro x sh' t fires
    cases enter_move fires with
    | reload rt =>
      by_cases hr : r = w.shared.allocated
      · have zero := (h.fresh (Nat.le_of_eq hr.symm)).1
        subst hr
        simp [zero, Thread.holds]
      · simp [hr, Thread.holds]
    | request | manager | shutdown => rfl
  · intro disk sh' fires
    cases fires
    rfl

theorem prober_workers {sh sh' : Shared} {p : Prober} {pc pc' : ProberPC} {new : Bool}
    (move : ProberMove p sh pc sh' pc' new) (r : Rid)
    (own : names r (Thread.prober p pc).works ≤ (sh.heap r).workerWG) :
    (sh'.heap r).workerWG + names r (Thread.prober p pc).works =
      (sh.heap r).workerWG + names r (Thread.prober p pc').works +
        total (fun t : Thread => names r t.works) (if new then [.prober p .newTicker] else []) := by
  cases move with
  | inner alive alive' still =>
    rw [still.workerWG, Thread.works_of_alive alive, Thread.works_of_alive alive']
    simp
  | restart =>
    by_cases hr : r = p.rt
    · subst hr; simp [startProber, Thread.works]
    · simp [startProber, Thread.works, hr, names_of_ne (Ne.symm hr)]
  | exit =>
    by_cases hr : r = p.rt
    · subst hr
      simp only [Thread.works, reduceCtorEq, ↓reduceIte, names_self] at own
      simp only [Shared.setRuntime_heap, Function.update_self, Thread.works, reduceCtorEq,
        ↓reduceIte, names_self, names_none, Bool.false_eq_true, total_nil]
      omega
    · simp [Thread.works, hr, names_of_ne (Ne.symm hr)]

theorem manager_workers {sh sh' : Shared} {pc pc' : ManagerPC} {new : Option Prober}
    (move : ManagerMove env sh pc sh' pc' new) (r : Rid)
    (fresh : r = sh.allocated → (sh.heap r).workerWG = 0) :
    (sh'.heap r).workerWG = (sh.heap r).workerWG +
      total (fun t : Thread => names r t.works) (new.toList.map (Thread.prober · .newTicker)) := by
  cases move with
  | allocate cfg tls =>
    by_cases hr : r = sh.allocated
    · have zero := fresh hr
      subst hr
      simp [allocate, newRuntime, zero]
    · simp [allocate, hr]
  | startProber cfg rt =>
    by_cases hr : r = rt
    · subst hr; simp [startProber, Thread.works]
    · simp [startProber, Thread.works, hr, names_of_ne (Ne.symm hr)]
  | backendFailed | backend | service | route =>
    exact Shared.setRuntime_same r Runtime.workerWG rfl
  | reload cfg rt move => exact move.heap_same r Runtime.workerWG (fun _ => rfl)
  | stop cfg rt move => exact move.heap_same r Runtime.workerWG (fun _ => rfl)
  | _ => rfl

theorem step_workers (h : Consistent w) (m : Moved (machine env) w a w') (r : Rid) :
    (w'.shared.heap r).workerWG = total (fun t => names r t.works) w'.threads := by
  refine m.counter (fun t => names r t.works) (fun sh => (sh.heap r).workerWG) (h.workers r)
    ?_ ?_ ?_
  · intro t c sh' t' new ht own fires
    cases Thread.step_move fires with
    | request req move =>
      have same : (sh'.heap r).workerWG = (w.shared.heap r).workerWG := by
        cases move with
        | rLock h => exact Shared.tryMu_same (fun x => (x.heap r).workerWG) (fun _ => rfl) h
        | acquire | release => exact Shared.setRuntime_same r Runtime.workerWG rfl
        | inner _ _ _ _ _ still => exact still.workerWG r
        | _ => rfl
      rw [same]
      rfl
    | reload new move => rw [move.heap_same r Runtime.workerWG (fun _ => rfl)]; rfl
    | manager move => exact manager_workers move r fun hr => (h.fresh (Nat.le_of_eq hr.symm)).2
    | shutdown move => rw [move.heap_same r Runtime.workerWG (fun _ => rfl)]; rfl
    | start move => rw [move.heap_same r Runtime.workerWG (fun _ => rfl)]; rfl
    | prober p move => exact prober_workers move r own
  · intro x sh' t fires
    cases enter_move fires with
    | reload rt =>
      by_cases hr : r = w.shared.allocated
      · have zero := (h.fresh (Nat.le_of_eq hr.symm)).2
        subst hr
        simp [zero, Thread.works]
      · simp [hr, Thread.works]
    | request | manager | shutdown => rfl
  · intro disk sh' fires
    cases fires
    rfl

theorem step_handlers (h : Consistent w) (m : Moved (machine env) w a w') :
    w'.shared.server.srv.handlers = total (·.inFlight) w'.threads := by
  refine m.counter (·.inFlight) (·.server.srv.handlers) h.handlers ?_ ?_ ?_
  · intro t c sh' t' new ht own fires
    have move := Thread.step_move fires
    rw [started_zero move _ (fun _ => rfl)]
    cases move with
    | request req move =>
      cases move with
      | rLock h => simp only [Shared.tryMu_same (·.server.srv) (fun _ => rfl) h]; rfl
      | inner q _ _ holds holds' still =>
        have flying (pc : HandlerPC) (h : pc.holds = some q) : pc.inFlight = 1 := by
          cases pc <;> simp_all [HandlerPC.holds, HandlerPC.inFlight]
        simp [still.server, Thread.inFlight, flying _ holds, flying _ holds']
      | exit rt =>
        simp only [Thread.inFlight, HandlerPC.inFlight] at own
        simp only [Shared.setServer_server, Thread.inFlight, HandlerPC.inFlight]
        omega
      | _ => rfl
    | reload new move =>
      simp only [move.server_same Server.srv (fun _ _ => rfl) (fun _ _ => rfl)]
      rfl
    | manager move =>
      simp only [move.server_same Server.srv (fun _ _ => rfl) (fun _ _ => rfl)]
      rfl
    | shutdown move => simp only [move.handlers]; rfl
    | start move => simp only [move.handlers]; rfl
    | prober p move => simp only [move.server]; rfl
  · intro x sh' t fires
    cases enter_move fires <;> rfl
  · intro disk sh' fires
    cases fires
    rfl

theorem step_refers (h : Consistent w) (m : Moved (machine env) w a w') :
    ∀ t ∈ w'.threads, ∀ r, t.holds = some r ∨ t.works = some r → r < w'.shared.allocated := by
  refine m.assertion (fun sh t => ∀ r, t.holds = some r ∨ t.works = some r → r < sh.allocated)
    h.refers ?_ ?_ ?_ ?_
  · intro i t c sh' t' new _ hi inv fires
    have move := Thread.step_move fires
    have ht := List.mem_of_getElem? hi
    cases move with
    | request req move =>
      refine ⟨fun r hr => ?_, by simp⟩
      rw [move.fixed.allocated]
      rcases hr with hr | hr
      · cases move with
        | acquire rt =>
          have same : rt = r := Option.some.inj hr
          rw [← same, h.acquiring _ ht req rt rfl]
          exact h.active
        | rUnlock rt => exact inv r (.inl hr)
        | inner q _ _ holds holds' _ => exact inv r (.inl (holds.trans (holds'.symm.trans hr)))
        | rLock | load | release | exit => cases hr
      · cases hr
    | manager move =>
      refine ⟨(by rintro r (hr | hr) <;> cases hr), ?_⟩
      cases move with
      | startProber cfg rt b todo vars =>
        intro n hn r hr
        obtain rfl : n = .prober ⟨rt, b, cfg.healthCheck.interval⟩ .newTicker := by simpa using hn
        rcases hr with hr | hr <;> cases hr
        exact (h.owned_ne ht rfl).1
      | _ => simp
    | prober p move =>
      have lt (q : ProberPC) (hq : (Thread.prober p q).works = some p.rt)
          (hm : .prober p q ∈ w.threads) : p.rt < sh'.allocated := by
        rw [move.fixed.allocated]
        exact h.refers _ hm p.rt (.inr hq)
      cases move with
      | inner alive alive' _ =>
        refine ⟨?_, by simp⟩
        rintro r (hr | hr)
        · cases hr
        · rw [Thread.works_of_alive alive'] at hr
          cases hr
          exact lt _ (Thread.works_of_alive alive) ht
      | restart =>
        refine ⟨?_, ?_⟩
        · rintro r (hr | hr) <;> cases hr
          exact lt _ rfl ht
        · intro n hn r hr
          obtain rfl : n = .prober p .newTicker := by simpa using hn
          rcases hr with hr | hr <;> cases hr
          exact lt _ rfl ht
      | exit =>
        refine ⟨?_, by simp⟩
        rintro r (hr | hr) <;> cases hr
    | reload | shutdown | start =>
      exact ⟨(by rintro r (hr | hr) <;> cases hr), by simp⟩
  · intro i j t u c sh' t' new _ _ _ _ fires inv r hr
    have lt := inv r hr
    rcases (Thread.step_move fires).ownership with ⟨fixed, -⟩ | ⟨_, _, _, _, allocated, _⟩ |
      ⟨_, _, _, _, allocated⟩
    · rw [fixed.allocated]; exact lt
    · rw [allocated]; exact lt
    · rw [allocated]; exact Nat.lt_succ_of_lt lt
  · intro x sh' t _ fires
    cases enter_move fires with
    | reload rt =>
      exact ⟨(by rintro r (hr | hr) <;> cases hr), fun u _ inv r hr => Nat.lt_succ_of_lt (inv r hr)⟩
    | request | manager | shutdown =>
      exact ⟨(by rintro r (hr | hr) <;> cases hr), fun u _ inv => inv⟩
  · intro disk sh' fires _ _ inv
    cases fires
    exact inv

/-- Every step of every goroutine keeps the books. -/
theorem step (h : Consistent w) (hs : World.step env w a = some w') : Consistent w' :=
  have m := Machine.next_moved hs
  ⟨step_readers h m, step_announced h m, step_writer h m, step_active h m, step_owners h m,
    step_acquiring h m, step_requests h m, step_workers h m, step_handlers h m, step_refers h m⟩

theorem run {ok : World → Action → Prop} (h : Consistent w) (r : Run env ok w w') :
    Consistent w' :=
  r.invariant Consistent h fun _ _ _ _ inv _ hs => inv.step hs

/-! ## What has come down stays down -/

theorem cancelled_stays (m : Moved (machine env) w a w') {r : Rid}
    (hr : r < w.shared.allocated) (hc : (w.shared.heap r).cancelled = true) :
    (w'.shared.heap r).cancelled = true := by
  have ne : r ≠ w.shared.allocated := Nat.ne_of_lt hr
  cases m with
  | step at_ fires => exact (Thread.step_move fires).cancelled ne hc
  | enter fires =>
    cases enter_move fires with
    | reload rt => simpa [ne] using hc
    | request | manager | shutdown => exact hc
  | change fires => cases fires; exact hc

theorem requests_stay (h : Consistent w) (m : Moved (machine env) w a w') {r : Rid}
    (zero : (w.shared.heap r).requestWG = 0)
    (closed : ∀ t ∈ w.threads, ∀ req, t ≠ .request req (.acquire r)) :
    (w'.shared.heap r).requestWG = 0 := by
  have none : ∀ t ∈ w.threads, t.holds ≠ some r := by
    intro t ht holds
    have pos := h.holds_le ht holds
    omega
  have none' : ∀ t ∈ w'.threads, t.holds ≠ some r := by
    apply m.each (fun t => t.holds ≠ some r) none
    · intro i t c sh' t' new _ at_ _ fires
      have move := Thread.step_move fires
      constructor
      · intro holds
        rcases move.holds holds with before | ⟨req, rfl⟩
        · exact none _ (List.mem_of_getElem? at_) before
        · exact closed _ (List.mem_of_getElem? at_) req rfl
      · intro u hn holds
        obtain ⟨p, rfl⟩ := move.starts u hn
        cases holds
    · intro x s t _ fires holds
      cases enter_move fires <;> cases holds
  rw [step_requests h m r, total_eq_zero]
  intro u hu
  simp [names, none' u hu]

/-- The worker group of a runtime that the moving goroutine does not build. -/
theorem workers_idle (h : Consistent w) (m : Moved (machine env) w a w') {r : Rid}
    (zero : (w.shared.heap r).workerWG = 0)
    (built : ∀ i c t, a = .run i c → w.threads[i]? = some t → t.owned ≠ some (r, .building)) :
    (w'.shared.heap r).workerWG = 0 := by
  have none : ∀ t ∈ w.threads, t.works ≠ some r := by
    intro t ht works
    have pos := h.works_le ht works
    omega
  have none' : ∀ t ∈ w'.threads, t.works ≠ some r := by
    apply m.each (fun t => t.works ≠ some r) none
    · intro i t c sh' t' new run at_ _ fires
      have joins {u : Thread} (hn : u = t' ∨ u ∈ new) : u.works ≠ some r := by
        intro works
        rcases (Thread.step_move fires).works hn works with before | building
        · exact none _ (List.mem_of_getElem? at_) before
        · exact built _ _ _ run at_ building
      exact ⟨joins (.inl rfl), fun u hn => joins (.inr hn)⟩
    · intro x s t _ fires works
      cases enter_move fires <;> cases works
  rw [step_workers h m r, total_eq_zero]
  intro u hu
  simp [names, none' u hu]

theorem workers_stay (h : Consistent w) (m : Moved (machine env) w a w') {r : Rid}
    (zero : (w.shared.heap r).workerWG = 0)
    (built : ∀ t ∈ w.threads, t.owned ≠ some (r, .building)) :
    (w'.shared.heap r).workerWG = 0 :=
  h.workers_idle m zero fun _ _ t _ at_ => built t (List.mem_of_getElem? at_)

end Consistent
end TorusProxy
