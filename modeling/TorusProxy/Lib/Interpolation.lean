import Mathlib.Algebra.Order.Floor.Semiring
import Mathlib.Algebra.Order.Ring.Rat
import Mathlib.Tactic.Linarith
import Mathlib.Tactic.Ring
import Mathlib.Data.List.GetD
import Mathlib.Data.List.Sort

/-! The straight lines between the values of a sequence. -/
namespace Interpolation

/-! ## Between two values -/

section
variable {K : Type} [Field K]

/-- The point a `weight` of the way from `a` to `b`. -/
def mix (a b weight : K) : K := a * (1 - weight) + b * weight

theorem mix_zero (a b : K) : mix a b 0 = a := by simp [mix]

variable [LinearOrder K] [IsStrictOrderedRing K]

theorem mix_mono {a b v w : K} (ab : a ≤ b) (vw : v ≤ w) : mix a b v ≤ mix a b w := by
  have gain : mix a b w - mix a b v = (b - a) * (w - v) := by
    unfold mix
    ring
  have nonneg : 0 ≤ (b - a) * (w - v) := mul_nonneg (sub_nonneg.mpr ab) (sub_nonneg.mpr vw)
  linarith

theorem le_mix {a b weight : K} (ab : a ≤ b) (nonneg : 0 ≤ weight) : a ≤ mix a b weight := by
  have grown := mix_mono ab nonneg
  rwa [mix_zero] at grown

theorem mix_le {a b weight : K} (ab : a ≤ b) (le_one : weight ≤ 1) : mix a b weight ≤ b := by
  have grown := mix_mono ab le_one
  have whole : mix a b 1 = b := by simp [mix]
  rwa [whole] at grown

/-! ## Along a sequence -/

variable [FloorSemiring K] {f : ℕ → K} {x y : K}

/-- The value at `x` of the lines through the points `(k, f k)`. -/
def between (f : ℕ → K) (x : K) : K := mix (f ⌊x⌋₊) (f (⌊x⌋₊ + 1)) (x - ⌊x⌋₊)

theorem between_natCast (f : ℕ → K) (k : ℕ) : between f (k : K) = f k := by
  rw [between, Nat.floor_natCast, sub_self, mix_zero]

theorem between_add (f : ℕ → K) (k : ℕ) {weight : K} (nonneg : 0 ≤ weight) (lt : weight < 1) :
    between f (k + weight) = mix (f k) (f (k + 1)) weight := by
  have floor : ⌊(k : K) + weight⌋₊ = k := by
    rw [Nat.floor_eq_iff (by positivity)]
    constructor <;> linarith
  rw [between, floor, add_sub_cancel_left]

theorem le_between (mono : Monotone f) (nonneg : 0 ≤ x) : f ⌊x⌋₊ ≤ between f x := by
  apply le_mix (mono (Nat.le_succ _))
  exact sub_nonneg.mpr (Nat.floor_le nonneg)

theorem between_le (mono : Monotone f) (x : K) : between f x ≤ f (⌊x⌋₊ + 1) := by
  apply mix_le (mono (Nat.le_succ _))
  have lt := Nat.lt_floor_add_one x
  linarith

/-- Lines through rising points rise, over the joints too. -/
theorem between_mono (mono : Monotone f) (nonneg : 0 ≤ x) (xy : x ≤ y) :
    between f x ≤ between f y := by
  rcases (Nat.floor_mono xy).lt_or_eq with joint | line
  · calc between f x ≤ f (⌊x⌋₊ + 1) := between_le mono x
      _ ≤ f ⌊y⌋₊ := mono joint
      _ ≤ between f y := le_between mono (nonneg.trans xy)
  · unfold between
    rw [line]
    exact mix_mono (mono (Nat.le_succ _)) (sub_le_sub_right xy _)

end

/-! ## Along a list -/

section
variable {α : Type} [Inhabited α]

/-- A list as a sequence that stays at its last element. -/
def held (xs : List α) (i : ℕ) : α := xs.getD (min i (xs.length - 1)) default

theorem held_eq {xs : List α} {i : ℕ} (h : i < xs.length) : held xs i = xs[i] := by
  rw [held, min_eq_left (by omega), List.getD_eq_getElem _ _ h]

theorem held_mono [LinearOrder α] {xs : List α} (sorted : xs.SortedLE) : Monotone (held xs) := by
  intro i j ij
  by_cases some : xs = []
  · rw [some]
    exact le_of_eq rfl
  · have pos := List.length_pos_iff.mpr some
    unfold held
    rw [List.getD_eq_getElem _ _ (by omega), List.getD_eq_getElem _ _ (by omega)]
    exact sorted.getElem_le_getElem_of_le (by omega)

end
end Interpolation
