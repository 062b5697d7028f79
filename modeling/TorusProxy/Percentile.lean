import Mathlib.Algebra.BigOperators.Group.List.Basic
import Mathlib.Data.Rat.Floor
import TorusProxy.Lib.Interpolation

/-! The statistics of the benchmark analysis (`metrics.py`), over exact numbers: what
`percentile` reads of the sorted runs, and how the published figures are ordered. -/
namespace TorusProxy.Benchmark

open Interpolation

/-! ## The language and its `statistics` -/

def sorted (values : List ℚ) : List ℚ := values.insertionSort (· ≤ ·)

/-- `int` drops the fraction. -/
def int (x : ℚ) : ℤ := if 0 ≤ x then ⌊x⌋ else ⌈x⌉

/-- `values[i]`: a negative index counts from the end, any other outside raises. -/
def getitem (values : List ℚ) (i : ℤ) : Option ℚ :=
  if 0 ≤ i then values[i.toNat]?
  else if 0 ≤ values.length + i then values[(values.length + i).toNat]?
  else none

/-- `statistics.mean` of data that are not empty. -/
def statisticsMean (data : List ℚ) : ℚ := data.sum / data.length

/-- `statistics.median` of data that are not empty: the middle one, or halfway
between the two in the middle. -/
def statisticsMedian (data : List ℚ) : ℚ :=
  let data := sorted data
  let n := data.length
  if n % 2 = 1 then data.getD (n / 2) 0
  else (data.getD (n / 2 - 1) 0 + data.getD (n / 2) 0) / 2

/-! ## metrics.py -/

def mean (values : List ℚ) : ℚ := if values = [] then 0 else statisticsMean values

def median (values : List ℚ) : ℚ := if values = [] then 0 else statisticsMedian values

def minimum (values : List ℚ) : ℚ := values.min?.getD 0

def maximum (values : List ℚ) : ℚ := values.max?.getD 0

/-- The place of a percentile in `n` sorted values. -/
def rank (n : ℕ) (p : ℚ) : ℚ := (n - 1) * (p / 100)

def lower (n : ℕ) (p : ℚ) : ℤ := int (rank n p)

def upper (n : ℕ) (p : ℚ) : ℤ := min (lower n p + 1) (n - 1)

def percentile (values : List ℚ) (p : ℚ) : Option ℚ := do
  let values := sorted values
  if values = [] then return 0
  if values.length = 1 then getitem values 0
  else
    let weight := rank values.length p - lower values.length p
    let low ← getitem values (lower values.length p)
    let high ← getitem values (upper values.length p)
    return low * (1 - weight) + high * weight

structure Summary where
  count : ℕ
  mean : ℚ
  median : ℚ
  min : ℚ
  max : ℚ
  stddev : ℚ
  coefficientOfVariation : ℚ
  p50 : ℚ
  p90 : ℚ
  p95 : ℚ
  p99 : ℚ

section
-- `statistics.stdev`, whose root need not be rational.
variable (stdev : List ℚ → ℚ)

def stddev (values : List ℚ) : ℚ := if values.length < 2 then 0 else stdev values

def coefficientOfVariation (values : List ℚ) : ℚ :=
  if values = [] then 0
  else
    let avg := mean values
    if avg = 0 then 0 else stddev stdev values / avg * 100

def summarize (values : List ℚ) : Option Summary := do
  let p50 ← percentile values 50
  let p90 ← percentile values 90
  let p95 ← percentile values 95
  let p99 ← percentile values 99
  return {
    count := values.length
    mean := mean values
    median := median values
    min := minimum values
    max := maximum values
    stddev := stddev stdev values
    coefficientOfVariation := coefficientOfVariation stdev values
    p50 := p50
    p90 := p90
    p95 := p95
    p99 := p99
  }

end

/-! ## The sorted values -/

@[simp] theorem sorted_length (values : List ℚ) : (sorted values).length = values.length :=
  List.length_insertionSort _ values

theorem sorted_perm (values : List ℚ) : (sorted values).Perm values :=
  List.perm_insertionSort _ values

theorem sorted_sortedLE (values : List ℚ) : (sorted values).SortedLE :=
  List.sortedLE_insertionSort

theorem sorted_congr {values others : List ℚ} (perm : others.Perm values) :
    sorted others = sorted values := by
  have same : (sorted others).Perm (sorted values) :=
    ((sorted_perm others).trans perm).trans (sorted_perm values).symm
  exact same.eq_of_pairwise' (sorted_sortedLE others).pairwise (sorted_sortedLE values).pairwise

/-- The sorted values as a sequence that stays at the largest. -/
abbrev ordered (values : List ℚ) : ℕ → ℚ := held (sorted values)

theorem ordered_mono (values : List ℚ) : Monotone (ordered values) :=
  held_mono (sorted_sortedLE values)

theorem ordered_mem {values : List ℚ} {i : ℕ} (h : i < values.length) :
    ordered values i ∈ values := by
  have inside : i < (sorted values).length := by simpa using h
  rw [ordered, held_eq inside]
  exact (sorted_perm values).mem_iff.mp (List.getElem_mem inside)

theorem exists_ordered {values : List ℚ} {v : ℚ} (mem : v ∈ values) :
    ∃ i, i < values.length ∧ ordered values i = v := by
  obtain ⟨i, inside, at_⟩ := List.mem_iff_getElem.mp ((sorted_perm values).mem_iff.mpr mem)
  exact ⟨i, by simpa using inside, by rw [ordered, held_eq inside, at_]⟩

theorem minimum_eq {values : List ℚ} (nonempty : values ≠ []) :
    minimum values = ordered values 0 := by
  have first : values.min? = some (ordered values 0) := by
    rw [List.min?_eq_some_iff]
    refine ⟨ordered_mem (List.length_pos_iff.mpr nonempty), fun v mem => ?_⟩
    obtain ⟨i, _, rfl⟩ := exists_ordered mem
    exact ordered_mono values (Nat.zero_le i)
  rw [minimum, first, Option.getD_some]

theorem maximum_eq {values : List ℚ} (nonempty : values ≠ []) :
    maximum values = ordered values (values.length - 1) := by
  have pos := List.length_pos_iff.mpr nonempty
  have last : values.max? = some (ordered values (values.length - 1)) := by
    rw [List.max?_eq_some_iff]
    refine ⟨ordered_mem (by omega), fun v mem => ?_⟩
    obtain ⟨i, inside, rfl⟩ := exists_ordered mem
    exact ordered_mono values (by omega)
  rw [maximum, last, Option.getD_some]

/-! ## What `percentile` reads -/

section
variable {n : ℕ} {p q : ℚ}

theorem rank_nonneg (pos : 0 < n) (nonneg : 0 ≤ p) : 0 ≤ rank n p := by
  have one : (1 : ℚ) ≤ n := by exact_mod_cast pos
  exact mul_nonneg (by linarith) (by linarith)

theorem rank_mono (pos : 0 < n) (pq : p ≤ q) : rank n p ≤ rank n q := by
  have one : (1 : ℚ) ≤ n := by exact_mod_cast pos
  exact mul_le_mul_of_nonneg_left (by linarith) (by linarith)

theorem rank_hundred (pos : 0 < n) : rank n 100 = ((n - 1 : ℕ) : ℚ) := by
  rw [rank, div_self (by norm_num), mul_one, Nat.cast_pred pos]

theorem rank_le (pos : 0 < n) (le : p ≤ 100) : rank n p ≤ ((n - 1 : ℕ) : ℚ) := by
  rw [← rank_hundred pos]
  exact rank_mono pos le

theorem lower_eq (pos : 0 < n) (nonneg : 0 ≤ p) : lower n p = (⌊rank n p⌋₊ : ℤ) := by
  have rank0 := rank_nonneg pos nonneg
  rw [lower, int, if_pos rank0, Int.natCast_floor_eq_floor rank0]

theorem floor_rank_lt (pos : 0 < n) (le : p ≤ 100) : ⌊rank n p⌋₊ < n := by
  have floor := Nat.floor_mono (rank_le pos le)
  rw [Nat.floor_natCast] at floor
  omega

/-- Both places `percentile` reads lie in the list. -/
theorem places_inside (pos : 0 < n) (nonneg : 0 ≤ p) (le : p ≤ 100) :
    (0 ≤ lower n p ∧ lower n p < n) ∧ 0 ≤ upper n p ∧ upper n p < n := by
  have lt := floor_rank_lt pos le
  rw [upper, lower_eq pos nonneg]
  omega

end

theorem getitem_inside {values : List ℚ} {i : ℕ} (h : i < values.length) :
    getitem values (i : ℤ) = some (held values i) := by
  rw [getitem, if_pos (by omega), Int.toNat_natCast, List.getElem?_eq_getElem h, held_eq h]

/-- The percentile is the value at its rank of the lines through the sorted values. -/
theorem percentile_eq {values : List ℚ} {p : ℚ} (nonempty : values ≠ []) (nonneg : 0 ≤ p)
    (le : p ≤ 100) :
    percentile values p = some (between (ordered values) (rank values.length p)) := by
  have pos := List.length_pos_iff.mpr nonempty
  have sorted_nonempty : sorted values ≠ [] := by
    rw [← List.length_pos_iff, sorted_length]
    exact pos
  have inside := floor_rank_lt (p := p) pos le
  simp only [percentile, if_neg sorted_nonempty, sorted_length]
  by_cases one : values.length = 1
  · have first : getitem (sorted values) 0 = some (ordered values 0) :=
      getitem_inside (i := 0) (by rw [sorted_length]; exact pos)
    have rank0 : rank values.length p = ((0 : ℕ) : ℚ) := by simp [rank, one]
    rw [if_pos one, rank0, between_natCast]
    exact first
  · have clamped : upper values.length p =
        ((min (⌊rank values.length p⌋₊ + 1) (values.length - 1) : ℕ) : ℤ) := by
      rw [upper, lower_eq pos nonneg]
      omega
    have high : held (sorted values) (min (⌊rank values.length p⌋₊ + 1) (values.length - 1)) =
        ordered values (⌊rank values.length p⌋₊ + 1) := by
      simp only [ordered, held, sorted_length, min_assoc, min_self]
    rw [if_neg one, clamped, lower_eq pos nonneg, getitem_inside (by simpa using inside),
      getitem_inside (by rw [sorted_length]; omega), high]
    rfl

/-! ## How the figures are ordered -/

theorem percentile_zero {values : List ℚ} (nonempty : values ≠ []) :
    percentile values 0 = some (minimum values) := by
  have rank0 : rank values.length 0 = ((0 : ℕ) : ℚ) := by simp [rank]
  rw [percentile_eq nonempty le_rfl (by norm_num), rank0, between_natCast, minimum_eq nonempty]

theorem percentile_hundred {values : List ℚ} (nonempty : values ≠ []) :
    percentile values 100 = some (maximum values) := by
  rw [percentile_eq nonempty (by norm_num) le_rfl, rank_hundred (List.length_pos_iff.mpr nonempty),
    between_natCast, maximum_eq nonempty]

theorem percentile_mono {values : List ℚ} {p q u v : ℚ} (nonneg : 0 ≤ p) (pq : p ≤ q)
    (le : q ≤ 100) (at_p : percentile values p = some u) (at_q : percentile values q = some v) :
    u ≤ v := by
  by_cases nil : values = []
  · subst nil
    cases at_p
    cases at_q
    exact le_rfl
  · have pos := List.length_pos_iff.mpr nil
    rw [percentile_eq nil nonneg (pq.trans le)] at at_p
    rw [percentile_eq nil (nonneg.trans pq) le] at at_q
    cases at_p
    cases at_q
    exact between_mono (ordered_mono values) (rank_nonneg pos nonneg) (rank_mono pos pq)

/-- Halfway is the middle value of an odd number, and between the two in the
middle of an even one. -/
theorem percentile_fifty {values : List ℚ} (nonempty : values ≠ []) :
    percentile values 50 = some (median values) := by
  have pos := List.length_pos_iff.mpr nonempty
  rw [percentile_eq nonempty (by norm_num) (by norm_num), median, if_neg nonempty]
  simp only [statisticsMedian, sorted_length]
  congr 1
  obtain ⟨m, even | odd⟩ := Nat.even_or_odd' values.length
  · obtain ⟨k, rfl⟩ := Nat.exists_eq_succ_of_ne_zero (n := m) (by omega)
    have half : rank values.length 50 = (k : ℚ) + 1 / 2 := by
      rw [rank, even]
      push_cast
      ring
    rw [half, between_add _ k (by norm_num) (by norm_num), if_neg (by omega),
      ordered, held_eq (by simp; omega), held_eq (by simp; omega),
      List.getD_eq_getElem _ _ (by simp; omega), List.getD_eq_getElem _ _ (by simp; omega)]
    have place : values.length / 2 = k + 1 := by omega
    simp only [place, Nat.add_sub_cancel, mix]
    ring
  · have middle : rank values.length 50 = (m : ℚ) := by
      rw [rank, odd]
      push_cast
      ring
    have place : values.length / 2 = m := by omega
    rw [middle, between_natCast, if_pos (by omega), ordered, held_eq (by simp; omega),
      List.getD_eq_getElem _ _ (by simp; omega)]
    simp only [place]

theorem percentile_perm {values others : List ℚ} (perm : others.Perm values) (p : ℚ) :
    percentile others p = percentile values p := by
  unfold percentile
  rw [sorted_congr perm]

/-- The figures of a summary, in the order of their sizes. -/
structure Summary.Ordered (s : Summary) : Prop where
  min_p50 : s.min ≤ s.p50
  median : s.p50 = s.median
  p50_p90 : s.p50 ≤ s.p90
  p90_p95 : s.p90 ≤ s.p95
  p95_p99 : s.p95 ≤ s.p99
  p99_max : s.p99 ≤ s.max

theorem summarize_ordered (stdev : List ℚ → ℚ) (values : List ℚ) :
    ∃ s, summarize stdev values = some s ∧ s.Ordered := by
  by_cases nil : values = []
  · subst nil
    exact ⟨_, rfl, le_rfl, rfl, le_rfl, le_rfl, le_rfl, le_rfl⟩
  · have at_ (p : ℚ) (nonneg : 0 ≤ p) (le : p ≤ 100) := percentile_eq nil nonneg le
    have at50 := percentile_fifty nil
    have at90 := at_ 90 (by norm_num) (by norm_num)
    have at95 := at_ 95 (by norm_num) (by norm_num)
    have at99 := at_ 99 (by norm_num) (by norm_num)
    refine ⟨_, by rw [summarize, at50, at90, at95, at99]; rfl, ?_⟩
    exact {
      min_p50 := percentile_mono le_rfl (by norm_num) (by norm_num) (percentile_zero nil) at50
      median := rfl
      p50_p90 := percentile_mono (by norm_num) (by norm_num) (by norm_num) at50 at90
      p90_p95 := percentile_mono (by norm_num) (by norm_num) (by norm_num) at90 at95
      p95_p99 := percentile_mono (by norm_num) (by norm_num) (by norm_num) at95 at99
      p99_max := percentile_mono (by norm_num) (by norm_num) le_rfl at99 (percentile_hundred nil)
    }

/-- Percentiles are order statistics: they read inside the list, rise with `p`
from the minimum through the median to the maximum, and depend on the values
alone, not on their order. -/
theorem percentiles_are_order_statistics {values : List ℚ} (nonempty : values ≠ []) {p q : ℚ}
    (nonneg : 0 ≤ p) (pq : p ≤ q) (le : q ≤ 100) :
    ((0 ≤ lower values.length p ∧ lower values.length p < values.length) ∧
      0 ≤ upper values.length p ∧ upper values.length p < values.length) ∧
    (∃ u v, percentile values p = some u ∧ percentile values q = some v ∧
      minimum values ≤ u ∧ u ≤ v ∧ v ≤ maximum values) ∧
    percentile values 0 = some (minimum values) ∧
    percentile values 100 = some (maximum values) ∧
    percentile values 50 = some (median values) ∧
    (∀ others : List ℚ, others.Perm values → percentile others p = percentile values p) ∧
    ∀ (stdev : List ℚ → ℚ) (measured : List ℚ),
      ∃ s, summarize stdev measured = some s ∧ s.Ordered := by
  have at_p := percentile_eq nonempty nonneg (pq.trans le)
  have at_q := percentile_eq nonempty (nonneg.trans pq) le
  refine ⟨places_inside (List.length_pos_iff.mpr nonempty) nonneg (pq.trans le),
    ⟨_, _, at_p, at_q, ?_, ?_, ?_⟩, percentile_zero nonempty, percentile_hundred nonempty,
    percentile_fifty nonempty, fun others perm => percentile_perm perm p, summarize_ordered⟩
  · exact percentile_mono le_rfl nonneg (pq.trans le) (percentile_zero nonempty) at_p
  · exact percentile_mono nonneg pq le at_p at_q
  · exact percentile_mono (nonneg.trans pq) le le_rfl at_q (percentile_hundred nonempty)

theorem percentiles_of_four :
    ∃ u v, percentile [4, 1, 3, 2] 50 = some u ∧ percentile [4, 1, 3, 2] 95 = some v ∧
      minimum [4, 1, 3, 2] ≤ u ∧ u ≤ v ∧ v ≤ maximum [4, 1, 3, 2] :=
  (percentiles_are_order_statistics (p := 50) (q := 95) (by decide : ([4, 1, 3, 2] : List ℚ) ≠ [])
    (by norm_num) (by norm_num) (by norm_num)).2.1

end TorusProxy.Benchmark
