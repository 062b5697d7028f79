import Mathlib.Algebra.Order.Field.Basic
import Mathlib.Data.List.Chain
import Mathlib.Tactic.Linarith
import Mathlib.Tactic.Ring

/-! Calls answered yes or no at times that never go back, and a budget that fills
at a steady rate and pays for every yes. -/
namespace Budget

section
variable {σ υ τ : Type}

/-- What a process answers to calls at these times. -/
def answers (step : σ → τ → Bool × σ) : σ → List τ → List Bool
  | _, [] => []
  | s, now :: nows => (step s now).1 :: answers step (step s now).2 nows

/-- What the calls leave behind. -/
def after (step : σ → τ → Bool × σ) : σ → List τ → σ
  | s, [] => s
  | s, now :: nows => after step (step s now).2 nows

variable [Preorder τ]

/-- The calls come one after the other, and none before `t`. -/
abbrev From (t : τ) (nows : List τ) : Prop := List.IsChain (· ≤ ·) (t :: nows)

theorem From.cons {t now : τ} {nows : List τ} (h : From t (now :: nows)) :
    t ≤ now ∧ From now nows := List.isChain_cons_cons.mp h

theorem exists_from [Inhabited τ] {nows : List τ} (h : nows.IsChain (· ≤ ·)) :
    ∃ t, From t nows := by
  cases nows with
  | nil => exact ⟨default, .singleton _⟩
  | cons now nows => exact ⟨now, .cons_cons le_rfl h⟩

/-- What each call keeps, all the calls keep. -/
theorem after_invariant {step : σ → τ → Bool × σ} {Fits : σ → τ → Prop}
    (keeps : ∀ {s t now}, Fits s t → t ≤ now → Fits (step s now).2 now)
    {s : σ} {t : τ} {nows : List τ} (fits : Fits s t) (rising : From t nows) :
    ∃ last, Fits (after step s nows) last := by
  induction nows generalizing s t with
  | nil => exact ⟨t, fits⟩
  | cons now nows ih => exact ih (keeps fits rising.cons.1) rising.cons.2

/-- Two processes whose calls agree answer alike throughout. -/
theorem answers_eq {step : σ → τ → Bool × σ} {other : υ → τ → Bool × υ} {R : σ → υ → τ → Prop}
    (agree : ∀ {s u t now}, R s u t → t ≤ now →
      (step s now).1 = (other u now).1 ∧ R (step s now).2 (other u now).2 now)
    {s : σ} {u : υ} {t : τ} {nows : List τ} (start : R s u t) (rising : From t nows) :
    answers step s nows = answers other u nows := by
  induction nows generalizing s u t with
  | nil => rfl
  | cons now nows ih =>
    obtain ⟨same, next⟩ := agree start rising.cons.1
    rw [answers, answers, same, ih next rising.cons.2]

end

/-! ## A stretch of time -/

section
variable {σ K : Type} [LinearOrder K]

/-- How many calls between `a` and `b` were answered yes. -/
def allowed (a b : K) (nows : List K) (oks : List Bool) : ℕ :=
  (nows.zip oks).countP fun call => call.2 && decide (a ≤ call.1) && decide (call.1 ≤ b)

theorem allowed_cons_outside {a b now : K} (outside : now < a ∨ b < now) (nows : List K)
    (ok : Bool) (oks : List Bool) :
    allowed a b (now :: nows) (ok :: oks) = allowed a b nows oks := by
  have missed : ¬ (a ≤ now ∧ now ≤ b) := by
    rintro ⟨left, right⟩
    exact outside.elim left.not_gt right.not_gt
  simp only [allowed, List.zip_cons_cons, List.countP_cons]
  simp [and_assoc, missed]

theorem allowed_late {a b t : K} {nows : List K} (oks : List Bool) (late : b < t)
    (rising : From t nows) : allowed a b nows oks = 0 := by
  induction nows generalizing t oks with
  | nil => rfl
  | cons now nows ih =>
    obtain ⟨le, rest⟩ := rising.cons
    cases oks with
    | nil => rfl
    | cons ok oks =>
      rw [allowed_cons_outside (.inr (late.trans_le le))]
      exact ih oks (late.trans_le le) rest

variable [Field K] [IsStrictOrderedRing K]

/-- What an answer costs. -/
def price (ok : Bool) : K := if ok then 1 else 0

theorem allowed_cons_le (a b now : K) (nows : List K) (ok : Bool) (oks : List Bool) :
    (allowed a b (now :: nows) (ok :: oks) : K) ≤ price ok + allowed a b nows oks := by
  simp only [allowed, List.zip_cons_cons, List.countP_cons, price]
  cases ok with
  | false => simp
  | true =>
    rw [Nat.cast_add, add_comm]
    apply add_le_add_left
    split <;> simp

/-- A process on a budget: it holds at most `capacity` right after a call, fills
at `rate` and pays for every yes, and is never overdrawn. -/
structure Bounded (step : σ → K → Bool × σ) (capacity rate : K) (Fits : σ → K → Prop)
    (left : σ → K → K) : Prop where
  capacity_nonneg : 0 ≤ capacity
  rate_nonneg : 0 ≤ rate
  nonneg : ∀ {s t}, Fits s t → 0 ≤ left s t
  keeps : ∀ {s t now}, Fits s t → t ≤ now → Fits (step s now).2 now
  fills : ∀ {s t now}, Fits s t → t ≤ now → left s now ≤ left s t + rate * (now - t)
  pays : ∀ {s t now}, Fits s t → t ≤ now →
    left (step s now).2 now + price (step s now).1 ≤ min capacity (left s now)

namespace Bounded
variable {step : σ → K → Bool × σ} {capacity rate : K} {Fits : σ → K → Prop} {left : σ → K → K}

/-- From `t` on, the yeses until `b` are paid from what is left at `t` and what
flows in. -/
theorem allowed_le_left (h : Bounded step capacity rate Fits left) {s : σ} {a b t : K}
    {nows : List K} (fits : Fits s t) (rising : From t nows) (tb : t ≤ b) :
    (allowed a b nows (answers step s nows) : K) ≤ left s t + rate * (b - t) := by
  induction nows generalizing s t with
  | nil =>
    have inflow : 0 ≤ rate * (b - t) := mul_nonneg h.rate_nonneg (sub_nonneg.mpr tb)
    have held := h.nonneg fits
    simp only [allowed, List.zip_nil_left, List.countP_nil, Nat.cast_zero]
    linarith
  | cons now nows ih =>
    obtain ⟨le, rest⟩ := rising.cons
    by_cases until_b : now ≤ b
    · have first := allowed_cons_le a b now nows (step s now).1 (answers step (step s now).2 nows)
      have later := ih (h.keeps fits le) rest until_b
      have paid := (h.pays fits le).trans (min_le_right _ _)
      have filled := h.fills fits le
      have inflow : rate * (now - t) + rate * (b - now) = rate * (b - t) := by ring
      rw [answers]
      linarith
    · have none_left : allowed a b (now :: nows) (answers step s (now :: nows)) = 0 := by
        rw [answers, allowed_cons_outside (.inr (not_le.mp until_b))]
        exact allowed_late _ (not_le.mp until_b) rest
      have inflow : 0 ≤ rate * (b - t) := mul_nonneg h.rate_nonneg (sub_nonneg.mpr tb)
      have held := h.nonneg fits
      rw [none_left, Nat.cast_zero]
      linarith

/-- In any stretch of time at most a full budget and the inflow are spent. -/
theorem allowed_le (h : Bounded step capacity rate Fits left) {s : σ} {a b t : K}
    {nows : List K} (fits : Fits s t) (rising : From t nows) (ab : a ≤ b) :
    (allowed a b nows (answers step s nows) : K) ≤ capacity + rate * (b - a) := by
  have enough : 0 ≤ capacity + rate * (b - a) :=
    add_nonneg h.capacity_nonneg (mul_nonneg h.rate_nonneg (sub_nonneg.mpr ab))
  induction nows generalizing s t with
  | nil => simpa [allowed] using enough
  | cons now nows ih =>
    obtain ⟨le, rest⟩ := rising.cons
    rw [answers]
    by_cases before : now < a
    · rw [allowed_cons_outside (.inl before)]
      exact ih (h.keeps fits le) rest
    · by_cases until_b : now ≤ b
      · -- the first call of the stretch finds at most a full budget
        have first := allowed_cons_le a b now nows (step s now).1
          (answers step (step s now).2 nows)
        have later := h.allowed_le_left (a := a) (h.keeps fits le) rest until_b
        have paid := (h.pays fits le).trans (min_le_left _ _)
        have shorter : rate * (b - now) ≤ rate * (b - a) :=
          mul_le_mul_of_nonneg_left (by linarith) h.rate_nonneg
        linarith
      · rw [allowed_cons_outside (.inr (not_le.mp until_b)),
          allowed_late _ (not_le.mp until_b) rest, Nat.cast_zero]
        exact enough

end Bounded
end
end Budget
