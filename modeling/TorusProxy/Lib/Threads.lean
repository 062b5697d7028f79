import Mathlib.Algebra.Ring.Nat
import TorusProxy.Lib.Exec

/-! Threads that share a state. One action is one atomic step of one thread,
the start of a new thread by a call from outside, or a change of the
environment. Two rules give invariants: a shared counter that every thread
moves exactly as its own weight moves is the sum of the weights, and an
assertion about a thread survives when every step keeps its own assertion and
does not interfere with the others'. -/
namespace Threads

/-! ## Sums over a list of threads -/

section
variable {ℓ : Type}

def total (g : ℓ → Nat) (ts : List ℓ) : Nat := (ts.map g).sum

@[simp] theorem total_nil (g : ℓ → Nat) : total g [] = 0 := rfl

@[simp] theorem total_cons (g : ℓ → Nat) (l : ℓ) (ts : List ℓ) :
    total g (l :: ts) = g l + total g ts := by
  simp [total]

@[simp] theorem total_append (g : ℓ → Nat) (ts us : List ℓ) :
    total g (ts ++ us) = total g ts + total g us := by
  simp [total]

theorem total_set (g : ℓ → Nat) {ts : List ℓ} {i : Nat} {l : ℓ} (l' : ℓ) (h : ts[i]? = some l) :
    total g (ts.set i l') + g l = total g ts + g l' := by
  induction ts generalizing i with
  | nil => simp at h
  | cons m ts ih =>
    cases i with
    | zero =>
      simp only [List.getElem?_cons_zero, Option.some.injEq] at h
      subst h
      simp only [List.set_cons_zero, total_cons]
      omega
    | succ i =>
      have := ih (i := i) (by simpa using h)
      simp only [List.set_cons_succ, total_cons]
      omega

theorem le_total (g : ℓ → Nat) {ts : List ℓ} {l : ℓ} (h : l ∈ ts) : g l ≤ total g ts := by
  induction ts with
  | nil => cases h
  | cons m ts ih =>
    rcases List.mem_cons.mp h with rfl | h
    · simp
    · have := ih h
      simp only [total_cons]
      omega

theorem total_eq_zero {g : ℓ → Nat} {ts : List ℓ} : total g ts = 0 ↔ ∀ l ∈ ts, g l = 0 := by
  constructor
  · intro h l hl
    have := le_total g hl
    omega
  · intro h
    induction ts with
    | nil => rfl
    | cons m ts ih =>
      have hm := h m List.mem_cons_self
      have ht := ih fun l hl => h l (List.mem_cons_of_mem _ hl)
      simp [hm, ht]

theorem total_congr {g g' : ℓ → Nat} {ts : List ℓ} (h : ∀ l ∈ ts, g l = g' l) :
    total g ts = total g' ts := by
  rw [total, total, List.map_congr_left h]

theorem total_mono {g g' : ℓ → Nat} {ts : List ℓ} (h : ∀ l, g l ≤ g' l) :
    total g ts ≤ total g' ts := by
  induction ts with
  | nil => exact Nat.le_refl _
  | cons l ts ih =>
    have here := h l
    simp only [total_cons]
    omega

theorem exists_of_total_pos {g : ℓ → Nat} {ts : List ℓ} (h : 0 < total g ts) :
    ∃ l ∈ ts, 0 < g l := by
  induction ts with
  | nil => simp at h
  | cons m ts ih =>
    by_cases hm : 0 < g m
    · exact ⟨m, List.mem_cons_self, hm⟩
    · obtain ⟨l, hl, hp⟩ := ih (by simp only [total_cons] at h; omega)
      exact ⟨l, List.mem_cons_of_mem _ hl, hp⟩

/-- Two different places of the list contribute separately. -/
theorem add_le_total (g : ℓ → Nat) {ts : List ℓ} {i j : Nat} {l m : ℓ} (hij : i ≠ j)
    (hi : ts[i]? = some l) (hj : ts[j]? = some m) : g l + g m ≤ total g ts := by
  induction ts generalizing i j with
  | nil => simp at hi
  | cons n ts ih =>
    cases i with
    | zero =>
      cases j with
      | zero => exact absurd rfl hij
      | succ j =>
        simp only [List.getElem?_cons_zero, Option.some.injEq] at hi
        simp only [List.getElem?_cons_succ] at hj
        have := le_total g (List.mem_of_getElem? hj)
        subst hi
        simp only [total_cons]
        omega
    | succ i =>
      simp only [List.getElem?_cons_succ] at hi
      cases j with
      | zero =>
        simp only [List.getElem?_cons_zero, Option.some.injEq] at hj
        have := le_total g (List.mem_of_getElem? hi)
        subst hj
        simp only [total_cons]
        omega
      | succ j =>
        simp only [List.getElem?_cons_succ] at hj
        have := ih (by omega) hi hj
        simp only [total_cons]
        omega

/-- A weight whose sum is at most one belongs to one place. -/
theorem unique_of_total_le_one {g : ℓ → Nat} {ts : List ℓ} (h : total g ts ≤ 1) {i j : Nat}
    {l m : ℓ} (hi : ts[i]? = some l) (hj : ts[j]? = some m) (pl : 0 < g l) (pm : 0 < g m) :
    i = j := by
  by_cases hij : i = j
  · exact hij
  · have := add_le_total g hij hi hj
    omega

end

/-! ## Machines -/

structure World (σ ℓ : Type) where
  shared : σ
  threads : List ℓ

/-- `step` is one atomic step of a thread, with the threads it starts;
`choice` settles what the thread does not decide itself. -/
structure Machine (σ ℓ choice call env : Type) where
  step : σ → ℓ → choice → Option (σ × ℓ × List ℓ)
  enter : σ → call → Option (σ × ℓ)
  change : σ → env → Option σ

inductive Action (choice call env : Type)
  | run (tid : Nat) (c : choice)
  | call (x : call)
  | env (e : env)

variable {σ ℓ κ χ ε : Type}

def Machine.next (M : Machine σ ℓ κ χ ε) (w : World σ ℓ) : Action κ χ ε → Option (World σ ℓ)
  | .run tid c =>
    match w.threads[tid]? with
    | none => none
    | some l =>
      match M.step w.shared l c with
      | none => none
      | some (s, l', new) => some ⟨s, w.threads.set tid l' ++ new⟩
  | .call x =>
    match M.enter w.shared x with
    | none => none
    | some (s, l) => some ⟨s, w.threads ++ [l]⟩
  | .env e =>
    match M.change w.shared e with
    | none => none
    | some s => some ⟨s, w.threads⟩

/-- Everything one action can do. -/
inductive Moved (M : Machine σ ℓ κ χ ε) (w : World σ ℓ) : Action κ χ ε → World σ ℓ → Prop
  | step {tid c l s l' new} (at_ : w.threads[tid]? = some l)
      (fires : M.step w.shared l c = some (s, l', new)) :
      Moved M w (.run tid c) ⟨s, w.threads.set tid l' ++ new⟩
  | enter {x s l} (fires : M.enter w.shared x = some (s, l)) :
      Moved M w (.call x) ⟨s, w.threads ++ [l]⟩
  | change {e s} (fires : M.change w.shared e = some s) : Moved M w (.env e) ⟨s, w.threads⟩

theorem Machine.next_moved {M : Machine σ ℓ κ χ ε} {w w' : World σ ℓ} {a : Action κ χ ε}
    (h : M.next w a = some w') : Moved M w a w' := by
  cases a with
  | run tid c =>
    simp only [Machine.next] at h
    split at h
    · cases h
    · rename_i l hl
      split at h
      · cases h
      · rename_i s l' new hs
        cases h
        exact .step hl hs
  | call x =>
    simp only [Machine.next] at h
    split at h
    · cases h
    · rename_i s l hs
      cases h
      exact .enter hs
  | env e =>
    simp only [Machine.next] at h
    split at h
    · cases h
    · rename_i s hs
      cases h
      exact .change hs

/-- **Counters.** A shared counter that each step moves exactly as far as the
weights of the threads involved move stays the sum of the weights. -/
theorem Moved.counter {M : Machine σ ℓ κ χ ε} {w w' : World σ ℓ} {a : Action κ χ ε}
    (h : Moved M w a w') (g : ℓ → Nat) (c : σ → Nat) (inv : c w.shared = total g w.threads)
    (step : ∀ l k s l' new, l ∈ w.threads → g l ≤ c w.shared →
      M.step w.shared l k = some (s, l', new) → c s + g l = c w.shared + g l' + total g new)
    (enter : ∀ x s l, M.enter w.shared x = some (s, l) → c s = c w.shared + g l)
    (change : ∀ e s, M.change w.shared e = some s → c s = c w.shared) :
    c w'.shared = total g w'.threads := by
  cases h with
  | @step tid k l s l' new hl fires =>
    have hm := List.mem_of_getElem? hl
    have hc := step l k s l' new hm (inv ▸ le_total g hm) fires
    have hset := total_set g l' hl
    simp only [total_append]
    omega
  | @enter x s l fires =>
    have hc := enter x s l fires
    simp only [total_append, total_cons, total_nil]
    omega
  | @change e s fires => exact (change e s fires).trans inv

/-- As `Moved.counter`, for a counter that the code could take below zero. -/
theorem Moved.balance {M : Machine σ ℓ κ χ ε} {w w' : World σ ℓ} {a : Action κ χ ε}
    (h : Moved M w a w') (g : ℓ → Nat) (c : σ → Int) (inv : c w.shared = total g w.threads)
    (step : ∀ l k s l' new, l ∈ w.threads →
      M.step w.shared l k = some (s, l', new) → c s + g l = c w.shared + g l' + total g new)
    (enter : ∀ x s l, M.enter w.shared x = some (s, l) → c s = c w.shared + g l)
    (change : ∀ e s, M.change w.shared e = some s → c s = c w.shared) :
    c w'.shared = total g w'.threads := by
  cases h with
  | @step tid k l s l' new hl fires =>
    have hc := step l k s l' new (List.mem_of_getElem? hl) fires
    have hset := total_set g l' hl
    simp only [total_append]
    omega
  | @enter x s l fires =>
    have hc := enter x s l fires
    simp only [total_append, total_cons, total_nil]
    omega
  | @change e s fires => exact (change e s fires).trans inv

/-- **Bounds.** As `Moved.counter`, for a sum that is only bounded by the shared
state. -/
theorem Moved.bound {M : Machine σ ℓ κ χ ε} {w w' : World σ ℓ} {a : Action κ χ ε}
    (h : Moved M w a w') (g : ℓ → Nat) (c : σ → Nat) (inv : total g w.threads ≤ c w.shared)
    (step : ∀ l k s l' new, l ∈ w.threads → M.step w.shared l k = some (s, l', new) →
      g l' + total g new + c w.shared ≤ c s + g l)
    (enter : ∀ x s l, M.enter w.shared x = some (s, l) → c w.shared + g l ≤ c s)
    (change : ∀ e s, M.change w.shared e = some s → c w.shared ≤ c s) :
    total g w'.threads ≤ c w'.shared := by
  cases h with
  | @step tid k l s l' new hl fires =>
    have hc := step l k s l' new (List.mem_of_getElem? hl) fires
    have hset := total_set g l' hl
    simp only [total_append]
    omega
  | @enter x s l fires =>
    have hc := enter x s l fires
    simp only [total_append, total_cons, total_nil]
    omega
  | @change e s fires => exact Nat.le_trans inv (change e s fires)

/-- A thread after a step: the one that moved, one it started, or another. -/
theorem mem_moved {ts new : List ℓ} {i : Nat} {l' m : ℓ} (h : m ∈ ts.set i l' ++ new) :
    m = l' ∨ m ∈ new ∨ ∃ j, j ≠ i ∧ ts[j]? = some m := by
  rcases List.mem_append.mp h with h | h
  · obtain ⟨j, hj⟩ := List.mem_iff_getElem?.mp h
    by_cases hji : j = i
    · subst hji
      rw [List.getElem?_set] at hj
      simp only [↓reduceIte] at hj
      split at hj
      · exact .inl (Option.some.inj hj).symm
      · cases hj
    · rw [List.getElem?_set_ne (Ne.symm hji)] at hj
      exact .inr (.inr ⟨j, hji, hj⟩)
  · exact .inr (.inl h)

/-- The thread that has moved, -/
theorem getElem?_moved {ts new : List ℓ} {i : Nat} {l : ℓ} (l' : ℓ) (h : ts[i]? = some l) :
    (ts.set i l' ++ new)[i]? = some l' := by
  have lt : i < ts.length := (List.getElem?_eq_some_iff.mp h).1
  rw [List.getElem?_append_left (by simpa using lt), List.getElem?_set_self lt]

/-- and another. -/
theorem getElem?_unmoved {ts new : List ℓ} {i j : Nat} {m : ℓ} (l' : ℓ) (ne : i ≠ j)
    (h : ts[j]? = some m) : (ts.set i l' ++ new)[j]? = some m := by
  have lt : j < ts.length := (List.getElem?_eq_some_iff.mp h).1
  rw [List.getElem?_append_left (by simpa using lt), List.getElem?_set_ne ne]
  exact h

/-- A thread after an action: as another left it, or after its own step. -/
theorem Moved.fate {M : Machine σ ℓ κ χ ε} {w w' : World σ ℓ} {a : Action κ χ ε}
    (h : Moved M w a w') {i : Nat} {l : ℓ} (hi : w.threads[i]? = some l) :
    ((∀ k, a ≠ .run i k) ∧ w'.threads[i]? = some l) ∨ ∃ k s l' new, a = .run i k ∧
      M.step w.shared l k = some (s, l', new) ∧ w'.shared = s ∧ w'.threads[i]? = some l' := by
  cases h with
  | @step tid k m s l' new hl fires =>
    by_cases ht : tid = i
    · subst ht
      obtain rfl : m = l := Option.some.inj (hl.symm.trans hi)
      exact .inr ⟨k, s, l', new, rfl, fires, rfl, getElem?_moved l' hl⟩
    · refine .inl ⟨?_, getElem?_unmoved l' ht hi⟩
      rintro k ⟨⟩
      exact ht rfl
  | enter fires =>
    have lt : i < w.threads.length := (List.getElem?_eq_some_iff.mp hi).1
    rw [List.getElem?_append_left lt]
    exact .inl ⟨(by rintro k ⟨⟩), hi⟩
  | change fires => exact .inl ⟨(by rintro k ⟨⟩), hi⟩

theorem Moved.thread {M : Machine σ ℓ κ χ ε} {w w' : World σ ℓ} {a : Action κ χ ε}
    (h : Moved M w a w') {i : Nat} {l : ℓ} (hi : w.threads[i]? = some l) :
    w'.threads[i]? = some l ∨ ∃ k s l' new, a = .run i k ∧
      M.step w.shared l k = some (s, l', new) ∧ w'.shared = s ∧ w'.threads[i]? = some l' :=
  (h.fate hi).imp_left And.right

/-- Where a thread comes from: it was there, it moved, it was started, or it entered. -/
theorem Moved.origin {M : Machine σ ℓ κ χ ε} {w w' : World σ ℓ} {a : Action κ χ ε}
    (h : Moved M w a w') {i : Nat} {l' : ℓ} (hi : w'.threads[i]? = some l') :
    w.threads[i]? = some l' ∨
    (∃ l k s new, a = .run i k ∧ w.threads[i]? = some l ∧
      M.step w.shared l k = some (s, l', new) ∧ w'.shared = s) ∨
    (∃ l k s m new, l ∈ w.threads ∧ M.step w.shared l k = some (s, m, new) ∧ l' ∈ new ∧
      w'.shared = s) ∨
    ∃ x s, a = .call x ∧ M.enter w.shared x = some (s, l') ∧ w'.shared = s := by
  cases h with
  | @step tid k l s m new hl fires =>
    by_cases lt : i < w.threads.length
    · rw [List.getElem?_append_left (by simpa using lt)] at hi
      by_cases ht : tid = i
      · subst ht
        simp only [List.getElem?_set_self', Option.map_eq_map, Option.map_eq_some_iff] at hi
        obtain ⟨_, -, rfl⟩ := hi
        exact .inr (.inl ⟨l, k, s, new, rfl, hl, fires, rfl⟩)
      · rw [List.getElem?_set_ne ht] at hi
        exact .inl hi
    · rw [List.getElem?_append_right (by simpa using Nat.not_lt.mp lt)] at hi
      exact .inr (.inr (.inl ⟨l, k, s, m, new, List.mem_of_getElem? hl, fires,
        List.mem_of_getElem? hi, rfl⟩))
  | @enter x s l fires =>
    by_cases lt : i < w.threads.length
    · rw [List.getElem?_append_left lt] at hi
      exact .inl hi
    · rw [List.getElem?_append_right (Nat.not_lt.mp lt)] at hi
      obtain rfl := List.mem_singleton.mp (List.mem_of_getElem? hi)
      exact .inr (.inr (.inr ⟨x, s, rfl, fires, rfl⟩))
  | change fires => exact .inl hi

/-- **Assertions.** Each step establishes the assertions of the thread that
moved and of those it started, and interferes with no other thread's. -/
theorem Moved.assertion {M : Machine σ ℓ κ χ ε} {w w' : World σ ℓ} {a : Action κ χ ε}
    (h : Moved M w a w') (A : σ → ℓ → Prop) (inv : ∀ l ∈ w.threads, A w.shared l)
    (self : ∀ i l k s l' new, a = .run i k → w.threads[i]? = some l → A w.shared l →
      M.step w.shared l k = some (s, l', new) → A s l' ∧ ∀ n ∈ new, A s n)
    (others : ∀ i j l m k s l' new, a = .run i k → i ≠ j → w.threads[i]? = some l →
      w.threads[j]? = some m → M.step w.shared l k = some (s, l', new) → A w.shared m → A s m)
    (enter : ∀ x s l, a = .call x → M.enter w.shared x = some (s, l) →
      A s l ∧ ∀ m ∈ w.threads, A w.shared m → A s m)
    (change : ∀ e s, M.change w.shared e = some s → ∀ m ∈ w.threads, A w.shared m → A s m) :
    ∀ l ∈ w'.threads, A w'.shared l := by
  intro m hm
  cases h with
  | @step tid k l s l' new hl fires =>
    have hs := self tid l k s l' new rfl hl (inv l (List.mem_of_getElem? hl)) fires
    rcases mem_moved hm with rfl | hn | ⟨j, hj, hat⟩
    · exact hs.1
    · exact hs.2 m hn
    · exact others tid j l m k s l' new rfl (Ne.symm hj) hl hat fires
        (inv m (List.mem_of_getElem? hat))
  | @enter x s l fires =>
    have he := enter x s l rfl fires
    rcases List.mem_append.mp hm with h | h
    · exact he.2 m h (inv m h)
    · exact (List.mem_singleton.mp h) ▸ he.1
  | @change e s fires => exact change e s fires m hm (inv m hm)

/-- As `Moved.assertion`, for what a thread decides alone: only its own steps and
its entry matter. -/
theorem Moved.each {M : Machine σ ℓ κ χ ε} {w w' : World σ ℓ} {a : Action κ χ ε}
    (h : Moved M w a w') (P : ℓ → Prop) (inv : ∀ l ∈ w.threads, P l)
    (self : ∀ i l k s l' new, a = .run i k → w.threads[i]? = some l → P l →
      M.step w.shared l k = some (s, l', new) → P l' ∧ ∀ n ∈ new, P n)
    (enter : ∀ x s l, a = .call x → M.enter w.shared x = some (s, l) → P l) :
    ∀ l ∈ w'.threads, P l := by
  refine h.assertion (fun _ l => P l) inv self ?_ ?_ ?_
  · intro i j l m k s l' new _ _ _ _ _ kept
    exact kept
  · intro x s l ha fires
    exact ⟨enter x s l ha fires, fun _ _ kept => kept⟩
  · intro e s _ m _ kept
    exact kept

end Threads
