import TorusProxy.Running

/-! The runtimes the server has had active, and how every other runtime stands
to that history: what was displaced is in it, what is being built, offered or
refused is not. -/
namespace TorusProxy

open Threads

structure History (w : World) : Prop where
  active : w.shared.installed.getLast? = some w.shared.server.runtime
  allocated : ∀ r ∈ w.shared.installed, r < w.shared.allocated
  nodup : w.shared.installed.Nodup
  roles : ∀ t ∈ w.threads, ∀ r role, t.owned = some (r, role) →
    (r ∈ w.shared.installed ↔ role = .displaced)
  swapped : ∀ t ∈ w.threads, ∀ r, t.swapped = some r → r ∈ w.shared.installed

namespace History

variable {env : Env} {w w' : World} {a : Action}

theorem active_mem (h : History w) : w.shared.server.runtime ∈ w.shared.installed :=
  List.mem_of_getLast? h.active

/-- A runtime that was installed and is not active is answered for by the
thread that displaced it. -/
theorem displacer (h : History w) (c : Consistent w) {r : Rid} (hr : r ∈ w.shared.installed)
    (ne : r ≠ w.shared.server.runtime) :
    ∃ t ∈ w.threads, t.owned = some (r, .displaced) := by
  obtain ⟨t, ht, role, owned⟩ := c.exists_owner (h.allocated r hr) ne
  have displaced := (h.roles t ht r role owned).mp hr
  exact ⟨t, ht, displaced ▸ owned⟩

/-- What a step does to the history: nothing, or one swap. -/
theorem grows (m : Moved (machine env) w a w') :
    (w'.shared.installed = w.shared.installed ∧
      w'.shared.server.runtime = w.shared.server.runtime) ∨
    ∃ t ∈ w.threads, ∃ new, t.swapping = some new ∧
      w'.shared.installed = w.shared.installed ++ [new] ∧ w'.shared.server.runtime = new := by
  cases m with
  | step at_ fires =>
    rcases (Thread.step_move fires).ownership with ⟨fixed, -⟩ | ⟨new, swapping, runtime, installed, -⟩ |
      ⟨-, -, runtime, installed, -⟩
    · exact .inl ⟨fixed.installed, fixed.runtime⟩
    · exact .inr ⟨_, List.mem_of_getElem? at_, new, swapping, installed, runtime⟩
    · exact .inl ⟨installed, runtime⟩
  | enter fires => cases enter_move fires <;> exact .inl ⟨rfl, rfl⟩
  | change fires => cases fires; exact .inl ⟨rfl, rfl⟩

theorem step_active (h : History w) (m : Moved (machine env) w a w') :
    w'.shared.installed.getLast? = some w'.shared.server.runtime := by
  rcases grows m with ⟨installed, runtime⟩ | ⟨t, -, new, -, installed, runtime⟩
  · rw [installed, runtime]
    exact h.active
  · rw [installed, runtime, List.getLast?_append]
    rfl

theorem allocated_mono (m : Moved (machine env) w a w') :
    w.shared.allocated ≤ w'.shared.allocated := by
  cases m with
  | step at_ fires =>
    rcases (Thread.step_move fires).ownership with ⟨fixed, -⟩ | ⟨_, _, _, _, allocated, _⟩ |
      ⟨_, _, _, _, allocated, _⟩
    · exact Nat.le_of_eq fixed.allocated.symm
    · exact Nat.le_of_eq allocated.symm
    · exact allocated ▸ Nat.le_succ _
  | enter fires =>
    cases enter_move fires with
    | reload => exact Nat.le_succ _
    | request | manager | shutdown => exact Nat.le_refl _
  | change fires => cases fires; exact Nat.le_refl _

theorem step_allocated (h : History w) (c : Consistent w) (m : Moved (machine env) w a w') :
    ∀ r ∈ w'.shared.installed, r < w'.shared.allocated := by
  intro r hr
  refine Nat.lt_of_lt_of_le ?_ (allocated_mono m)
  rcases grows m with ⟨installed, -⟩ | ⟨t, ht, new, swapping, installed, -⟩
  · exact h.allocated r (installed ▸ hr)
  · rw [installed] at hr
    rcases List.mem_append.mp hr with hr | hr
    · exact h.allocated r hr
    · rw [List.mem_singleton.mp hr]
      exact (c.owned_ne ht (Thread.swapping_owned swapping).1).1

/-- What is about to be installed never was. -/
theorem swapping_not_mem (h : History w) {t : Thread} (ht : t ∈ w.threads) {new : Rid}
    (swapping : t.swapping = some new) : new ∉ w.shared.installed := by
  intro mem
  have displaced := (h.roles t ht new .pending (Thread.swapping_owned swapping).1).mp mem
  cases displaced

theorem step_nodup (h : History w) (m : Moved (machine env) w a w') :
    w'.shared.installed.Nodup := by
  rcases grows m with ⟨installed, -⟩ | ⟨t, ht, new, swapping, installed, -⟩
  · rw [installed]
    exact h.nodup
  · rw [installed, List.nodup_append]
    refine ⟨h.nodup, by simp, ?_⟩
    intro r hr q hq
    rw [List.mem_singleton.mp hq]
    rintro rfl
    exact h.swapping_not_mem ht swapping hr

theorem step_roles (h : History w) (c : Consistent w) (m : Moved (machine env) w a w') :
    ∀ t ∈ w'.threads, ∀ r role, t.owned = some (r, role) →
      (r ∈ w'.shared.installed ↔ role = .displaced) := by
  refine World.assertion m (fun sh t => ∀ r role, t.owned = some (r, role) →
    (r ∈ sh.installed ↔ role = .displaced)) h.roles ?_ ?_ ?_ ?_ ?_
  · intro i t k sh' t' new _ hi inv fires r role hr
    rcases (Thread.step_move fires).ownership with ⟨fixed, owned, displaced, -⟩ |
      ⟨q, swapping, -, installed, -, owned, -⟩ | ⟨-, owned', -, installed, -⟩
    · rw [hr, Option.map_some] at owned
      obtain ⟨⟨q, old⟩, before, rfl⟩ := Option.map_eq_some_iff.mp owned.symm
      have same : role = .displaced ↔ old = .displaced := by
        simpa [Thread.displaced, hr, before] using displaced
      rw [fixed.installed, same]
      exact inv q old before
    · rw [owned] at hr
      cases hr
      simp [installed, h.active_mem]
    · rw [owned'] at hr
      cases hr
      rw [installed]
      have fresh : w.shared.allocated ∉ w.shared.installed :=
        fun mem => Nat.lt_irrefl _ (h.allocated _ mem)
      simp [fresh]
  · intro i j t u k sh' t' new _ hij hi hj fires inv r role hr
    rcases (Thread.step_move fires).ownership with ⟨fixed, -⟩ | ⟨q, swapping, -, installed, -⟩ |
      ⟨-, -, -, installed, -⟩
    · rw [fixed.installed]
      exact inv r role hr
    · have ne : r ≠ q := by
        rintro rfl
        exact hij (c.owner_unique hi hj (Thread.swapping_owned swapping).1 hr)
      rw [installed, List.mem_append, List.mem_singleton]
      simp only [ne, or_false]
      exact inv r role hr
    · rw [installed]
      exact inv r role hr
  · intro sh' p r role hr
    cases hr
  · intro x sh' t fires
    cases enter_move fires with
    | reload rt =>
      refine ⟨?_, fun _ _ inv => inv⟩
      intro r role hr
      cases hr
      have fresh : w.shared.allocated ∉ w.shared.installed :=
        fun mem => Nat.lt_irrefl _ (h.allocated _ mem)
      simp [fresh]
    | request | manager | shutdown => exact ⟨by rintro _ _ ⟨⟩, fun _ _ inv => inv⟩
  · intro disk u inv
    exact inv

theorem step_swapped (h : History w) (m : Moved (machine env) w a w') :
    ∀ t ∈ w'.threads, ∀ r, t.swapped = some r → r ∈ w'.shared.installed := by
  refine World.assertion m (fun sh t => ∀ r, t.swapped = some r → r ∈ sh.installed)
    h.swapped ?_ ?_ ?_ ?_ ?_
  · intro i t k sh' t' new _ hi inv fires r hr
    rcases (Thread.step_move fires).ownership with ⟨fixed, -, -, swapped⟩ |
      ⟨q, -, -, installed, -, -, swapped⟩ | ⟨-, -, -, -, -, swapped⟩
    · rw [fixed.installed]
      exact inv r (swapped ▸ hr)
    · rw [swapped] at hr
      cases hr
      simp [installed]
    · rw [swapped] at hr
      cases hr
  · intro i j t u k sh' t' new _ _ hi _ fires inv r hr
    rcases (Thread.step_move fires).ownership with ⟨fixed, -⟩ | ⟨q, -, -, installed, -⟩ |
      ⟨-, -, -, installed, -⟩
    · exact fixed.installed ▸ inv r hr
    · rw [installed]
      exact List.mem_append_left _ (inv r hr)
    · exact installed ▸ inv r hr
  · intro sh' p r hr
    cases hr
  · intro x sh' t fires
    cases enter_move fires <;> exact ⟨by rintro _ ⟨⟩, fun _ _ inv => inv⟩
  · intro disk u inv
    exact inv

theorem step (h : History w) (c : Consistent w) (hs : World.step env w a = some w') :
    History w' :=
  have m := Machine.next_moved hs
  ⟨step_active h m, step_allocated h c m, step_nodup h m, step_roles h c m, step_swapped h m⟩

theorem run {ok : World → Action → Prop} (h : History w) (c : Consistent w)
    (r : Run env ok w w') : History w' :=
  (r.invariant (fun v => History v ∧ Consistent v) ⟨h, c⟩
    fun _ _ _ _ inv _ hs => ⟨inv.1.step inv.2 hs, inv.2.step hs⟩).1

end History

/-- A request has acquired a runtime that was active. -/
def Held (w : World) : Prop :=
  ∀ req pc r, .request req pc ∈ w.threads → pc.acquired = some r → r ∈ w.shared.installed

section
variable {env : Env} {w w' : World} {a : Action}

theorem History.installed_stays (m : Moved (machine env) w a w') {r : Rid}
    (hr : r ∈ w.shared.installed) : r ∈ w'.shared.installed := by
  rcases History.grows m with ⟨installed, -⟩ | ⟨t, -, q, -, installed, -⟩
  · exact installed ▸ hr
  · exact installed ▸ List.mem_append_left _ hr

theorem Held.step (h : Held w) (history : History w) (c : Consistent w)
    (m : Moved (machine env) w a w') : Held w' := by
  intro req pc r ht acquired
  cases World.origin m ht with
  | stayed mem => exact History.installed_stays m (h req pc r mem acquired)
  | moved u c' hu fires =>
    cases Thread.step_move fires with
    | @request _ pc₀ _ _ move =>
      cases move with
      | acquire rt =>
        cases acquired
        rw [c.acquiring _ hu req _ rfl]
        exact History.installed_stays m history.active_mem
      | inner q _ _ holds holds' _ =>
        rw [HandlerPC.acquired_of_holds holds'] at acquired
        have before := (HandlerPC.acquired_of_holds holds).trans acquired
        exact History.installed_stays m (h req pc₀ r hu before)
      | rUnlock rt | release rt | exit rt =>
        exact History.installed_stays m (h req _ r hu acquired)
      | rLock | load => cases acquired
  | entered x fires =>
    cases enter_move fires
    cases acquired

theorem Fresh.held {pc : StartPC} (h : Fresh pc w) : Held w := by
  intro req q r ht
  rcases h.threads _ ht with ⟨p, q, hp, -⟩ | hp <;> cases hp

end

theorem Fresh.history {pc : StartPC} {w : World} (h : Fresh pc w) : History w := by
  refine ⟨by simp [h.installed, h.runtime], by simp [h.installed, h.allocated],
    by simp [h.installed], ?_, ?_⟩
  · intro t ht r role hr
    rcases h.threads t ht with ⟨p, pc, rfl, -⟩ | rfl <;> cases hr
  · intro t ht r hr
    rcases h.threads t ht with ⟨p, pc, rfl, -⟩ | rfl <;> cases hr

end TorusProxy
