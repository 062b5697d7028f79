import Mathlib.Data.List.Rotate
import Mathlib.Data.Nat.Count

/-! Going round a list, and the positions where a periodic predicate holds. -/
namespace Cyclic

section
variable {α : Type} {ring xs : List α} {s : Nat}

/-- The list goes round the ring, from its `s`-th element on. -/
def Rounds (ring : List α) (s : Nat) (xs : List α) : Prop :=
  ∀ k, k < xs.length → xs[k]? = ring[(s + k) % ring.length]?

theorem Rounds.drop (h : Rounds ring s xs) (i : Nat) : Rounds ring (s + i) (xs.drop i) := by
  intro k hk
  rw [List.length_drop] at hk
  rw [List.getElem?_drop, h (i + k) (by omega), Nat.add_assoc]

theorem Rounds.take (h : Rounds ring s xs) (i : Nat) : Rounds ring s (xs.take i) := by
  intro k hk
  rw [List.length_take] at hk
  rw [List.getElem?_take_of_lt (by omega), h k (by omega)]

/-- Less than a whole round is part of one. -/
theorem Rounds.eq_take (h : Rounds ring s xs) (short : xs.length ≤ ring.length) :
    xs = (ring.rotate s).take xs.length := by
  apply List.ext_getElem?
  intro k
  by_cases hk : k < xs.length
  · rw [h k hk, List.getElem?_take_of_lt hk, List.getElem?_rotate (by omega), Nat.add_comm]
  · rw [List.getElem?_eq_none (by omega), List.getElem?_eq_none (by simp; omega)]

/-- A whole round meets every element. -/
theorem Rounds.perm (h : Rounds ring s xs) (full : xs.length = ring.length) : xs.Perm ring := by
  rw [h.eq_take (Nat.le_of_eq full), full, List.take_of_length_le (by simp)]
  exact List.rotate_perm ring s

/-- Every element of the ring is met once in each whole round, and at most once
in what is left over. -/
theorem Rounds.count [DecidableEq α] (distinct : ring.Nodup) (h : Rounds ring s xs) {a : α}
    (mem : a ∈ ring) :
    xs.length / ring.length ≤ xs.count a ∧ xs.count a ≤ xs.length / ring.length + 1 := by
  have pos : 0 < ring.length := List.length_pos_of_mem mem
  induction hn : xs.length using Nat.strongRecOn generalizing xs s with
  | ind n ih =>
    subst hn
    by_cases short : xs.length < ring.length
    · rw [Nat.div_eq_of_lt short]
      refine ⟨Nat.zero_le _, ?_⟩
      have part := h.eq_take (Nat.le_of_lt short)
      have once : ((ring.rotate s).take xs.length).Nodup :=
        (List.nodup_rotate.mpr distinct).sublist (List.take_sublist _ _)
      rw [← part] at once
      exact List.nodup_iff_count_le_one.mp once a
    · have full : (xs.take ring.length).length = ring.length := by simp; omega
      have first : (xs.take ring.length).count a = 1 := by
        rw [((h.take ring.length).perm full).count_eq]
        exact List.count_eq_one_of_mem distinct mem
      have split : xs.count a = 1 + (xs.drop ring.length).count a := by
        rw [← first, ← List.count_append, List.take_append_drop]
      have rest := ih (xs.drop ring.length).length (by simp; omega) (h.drop ring.length) rfl
      have rounds : xs.length / ring.length = (xs.drop ring.length).length / ring.length + 1 := by
        rw [List.length_drop, ← Nat.add_div_right _ pos, Nat.sub_add_cancel (Nat.not_lt.mp short)]
      omega

end

section
variable {p : Nat → Bool} {n : Nat}

/-- Where the predicate holds within one period. -/
def ringOf (p : Nat → Bool) (n : Nat) : List Nat := (List.range n).filter p

theorem length_ringOf (p : Nat → Bool) (n : Nat) : (ringOf p n).length = Nat.count (p ·) n := by
  rw [Nat.count, ringOf, List.countP_eq_length_filter]
  simp

theorem ringOf_count {r : Nat} (lt : r < n) (holds : p r = true) :
    (ringOf p n)[Nat.count (p ·) r]? = some r := by
  obtain ⟨k, rfl⟩ := Nat.exists_eq_add_of_le (Nat.succ_le_of_lt lt)
  have split : ringOf p (r + 1 + k) =
      ringOf p r ++ r :: ((List.range k).map (r + 1 + ·)).filter p := by
    simp [ringOf, List.range_add, List.range_succ, holds]
  rw [split, ← length_ringOf, List.getElem?_append_right (Nat.le_refl _), Nat.sub_self,
    List.getElem?_cons_zero]

theorem count_periodic (periodic : ∀ t, p (n + t) = p t) (q r : Nat) :
    Nat.count (p ·) (q * n + r) = q * Nat.count (p ·) n + Nat.count (p ·) r := by
  induction q with
  | zero => simp
  | succ q ih =>
    have turn : (q + 1) * n + r = n + (q * n + r) := by rw [Nat.succ_mul]; omega
    rw [turn, Nat.count_add]
    simp only [periodic]
    rw [ih, Nat.succ_mul]
    omega

/-- A position where the predicate holds, by the number of those before it. -/
theorem ringOf_rank (periodic : ∀ t, p (n + t) = p t) (pos : 0 < n) {t : Nat} (holds : p t = true) :
    (ringOf p n)[Nat.count (p ·) t % (ringOf p n).length]? = some (t % n) := by
  have reduce (q r : Nat) : p (q * n + r) = p r := by
    induction q with
    | zero => simp
    | succ q ih => rw [Nat.succ_mul, Nat.add_comm (q * n), Nat.add_assoc, periodic, ih]
  have parts : t / n * n + t % n = t := Nat.div_add_mod' t n
  have inside : t % n < n := Nat.mod_lt t pos
  have here : p (t % n) = true := by rw [← reduce (t / n), parts, holds]
  have below : Nat.count (p ·) (t % n) < (ringOf p n).length := by
    rw [length_ringOf]
    exact Nat.count_strict_mono here inside
  have whole := count_periodic periodic (t / n) (t % n)
  rw [parts, ← length_ringOf p n] at whole
  have rank : Nat.count (p ·) t % (ringOf p n).length = Nat.count (p ·) (t % n) := by
    rw [whole, Nat.mul_add_mod_self_right, Nat.mod_eq_of_lt below]
  rw [rank]
  exact ringOf_count inside here

end

end Cyclic
