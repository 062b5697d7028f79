import Mathlib.Data.Nat.ModEq
import Mathlib.Logic.Relation
import TorusProxy.Balancer
import TorusProxy.Lib.Cyclic

/-! Calls of `RoundRobin.Next` that do not overlap: the places they return go
round the healthy ones, as long as the counter does not wrap. -/
namespace TorusProxy

open Cyclic

namespace RoundRobin

/-- The backend at this place is healthy. -/
def up (bs : List Backend) (idx : Nat) : Bool := bs[idx]?.any (·.healthy)

/-- The loop of `Next` with this many turns left, on the counter. -/
def scan (bs : List Backend) : Nat → Nat → Nat × Option Nat
  | 0, c => (c, none)
  | turns + 1, c =>
    let index := (c + 1) % 2 ^ 64
    if up bs (index % bs.length) then (index, some (index % bs.length)) else scan bs turns index

/-- A whole call, while no other call is going on. -/
def call (r : RoundRobin) : RoundRobin × Option Nat :=
  ({ r with index := (scan r.backends r.backends.length r.index).1 },
    (scan r.backends r.backends.length r.index).2)

/-- Calls one after another, and what they return. -/
def successive : Nat → RoundRobin → RoundRobin × List (Option Nat)
  | 0, r => (r, [])
  | m + 1, r => ((successive m r.call.1).1, r.call.2 :: (successive m r.call.1).2)

/-! ## The steps of a call -/

/-- One step of a call that is alone. -/
def Alone (x y : RoundRobin × NextPC) : Prop := x.1.next x.2 = some y

theorem scan_steps (bs : List Backend) (turns : Nat) {i c : Nat} (left : i + turns = bs.length)
    (drawn : List Nat) :
    Relation.ReflTransGen Alone (⟨bs, c⟩, .loop i drawn)
      (⟨bs, (scan bs turns c).1⟩, .returned (scan bs turns c).2) := by
  induction turns generalizing i c drawn with
  | zero =>
    refine .single ?_
    have ended : ¬ i < bs.length := by omega
    simp [Alone, next, ended, scan]
  | succ turns ih =>
    have lt : i < bs.length := by omega
    have draws : Alone (⟨bs, c⟩, .loop i drawn)
        (⟨bs, (c + 1) % 2 ^ 64⟩, .isHealthy i ((c + 1) % 2 ^ 64 % bs.length) drawn) := by
      simp [Alone, next, lt]
    have inside : (c + 1) % 2 ^ 64 % bs.length < bs.length := Nat.mod_lt _ (by omega)
    refine .head draws ?_
    unfold scan
    simp only
    generalize (c + 1) % 2 ^ 64 = index at inside
    have at_ := List.getElem?_eq_getElem inside
    split
    · rename_i on
      refine .single ?_
      simp only [up, at_, Option.any_some] at on
      simp [Alone, next, at_, on]
    · rename_i off
      have skips : Alone (⟨bs, index⟩, .isHealthy i (index % bs.length) drawn)
          (⟨bs, index⟩, .loop (i + 1) (index % bs.length :: drawn)) := by
        simp only [up, at_, Option.any_some] at off
        simp [Alone, next, at_, off]
      exact .head skips (ih (by omega) _)

/-- The whole call is what its steps do. -/
theorem call_steps (r : RoundRobin) :
    Relation.ReflTransGen Alone (r, .begin) (r.call.1, .returned r.call.2) := by
  by_cases nil : r.backends.length = 0
  · refine .single ?_
    simp [Alone, next, call, nil, scan]
  · have begins : Alone (r, .begin) (r, .loop 0 []) := by simp [Alone, next, nil]
    exact .head begins (scan_steps r.backends r.backends.length (Nat.zero_add _) [])

/-! ## The first healthy place -/

theorem scan_first {bs : List Backend} {turns c t : Nat} (after : c < t) (near : t ≤ c + turns)
    (room : t < 2 ^ 64) (on : up bs (t % bs.length) = true)
    (first : ∀ u, c < u → u < t → up bs (u % bs.length) = false) :
    scan bs turns c = (t, some (t % bs.length)) := by
  induction turns generalizing c with
  | zero => omega
  | succ turns ih =>
    have wrap : (c + 1) % 2 ^ 64 = c + 1 := Nat.mod_eq_of_lt (by omega)
    unfold scan
    simp only [wrap]
    by_cases here : c + 1 = t
    · rw [here, if_pos on]
    · have off := first (c + 1) (by omega) (by omega)
      rw [if_neg (by simp [off])]
      exact ih (by omega) (by omega) fun u hu => first u (by omega)

theorem exists_first {bs : List Backend} (some : ∃ b ∈ bs, b.healthy = true) (c : Nat) :
    ∃ t, c < t ∧ t ≤ c + bs.length ∧ up bs (t % bs.length) = true ∧
      ∀ u, c < u → u < t → up bs (u % bs.length) = false := by
  obtain ⟨b, mem, on⟩ := some
  obtain ⟨place, at_⟩ := List.mem_iff_getElem?.mp mem
  obtain ⟨m, small, lands⟩ := exists_turns c (List.getElem?_eq_some_iff.mp at_).1
  have reached : ∃ t, c < t ∧ up bs (t % bs.length) = true := by
    refine ⟨c + m + 1, by omega, ?_⟩
    rw [lands, up, at_]
    exact on
  have bound : Nat.find reached ≤ c + m + 1 := by
    apply Nat.find_min'
    refine ⟨by omega, ?_⟩
    rw [lands, up, at_]
    exact on
  obtain ⟨after, here⟩ := Nat.find_spec reached
  refine ⟨Nat.find reached, after, by omega, here, ?_⟩
  intro u hu lt
  have earlier := Nat.find_min reached lt
  simpa [hu] using earlier

/-! ## Fairness -/

/-- The healthy places in list order. -/
def ring (bs : List Backend) : List Nat := (List.range bs.length).filter (up bs)

/-- The counter value leads to a healthy place. -/
def hits (bs : List Backend) (t : Nat) : Bool := up bs (t % bs.length)

theorem hits_periodic (bs : List Backend) (t : Nat) : hits bs (bs.length + t) = hits bs t := by
  rw [hits, hits, Nat.add_mod_left]

theorem ring_eq (bs : List Backend) : ring bs = ringOf (hits bs) bs.length := by
  apply List.filter_congr
  intro idx mem
  rw [hits, Nat.mod_eq_of_lt (List.mem_range.mp mem)]

/-- A call returns the next healthy place of the ring, and leaves the counter
one hit further on. -/
theorem call_next {bs : List Backend} (some : ∃ b ∈ bs, b.healthy = true) {c : Nat}
    (room : c + bs.length < 2 ^ 64) :
    ∃ t place, call ⟨bs, c⟩ = (⟨bs, t⟩, Option.some place) ∧ t ≤ c + bs.length ∧
      (ring bs)[Nat.count (hits bs ·) (c + 1) % (ring bs).length]? = Option.some place ∧
      Nat.count (hits bs ·) (t + 1) = Nat.count (hits bs ·) (c + 1) + 1 := by
  obtain ⟨t, after, near, on, first⟩ := exists_first some c
  have pos : 0 < bs.length := by omega
  have found := scan_first after near (by omega) on first
  have hit : hits bs t = true := on
  have between : Nat.count (hits bs ·) t = Nat.count (hits bs ·) (c + 1) := by
    obtain ⟨d, rfl⟩ := Nat.exists_eq_add_of_le (Nat.succ_le_of_lt after)
    rw [Nat.count_add, Nat.add_eq_left, Nat.count_iff_forall_not]
    intro k lt
    have off := first (c + 1 + k) (by omega) (by omega)
    simp [hits, off]
  refine ⟨t, t % bs.length, by rw [call, found], near, ?_, ?_⟩
  · rw [ring_eq, ← between]
    exact ringOf_rank (hits_periodic bs) pos hit
  · rw [Nat.count_succ, between, if_pos hit]

theorem successive_rounds {bs : List Backend} (some : ∃ b ∈ bs, b.healthy = true) (m : Nat) {c : Nat}
    (room : c + bs.length * m < 2 ^ 64) :
    ∃ places, (successive m ⟨bs, c⟩).2 = places.map Option.some ∧ places.length = m ∧
      Rounds (ring bs) (Nat.count (hits bs ·) (c + 1)) places := by
  induction m generalizing c with
  | zero => exact ⟨[], rfl, rfl, by intro k hk; cases hk⟩
  | succ m ih =>
    rw [Nat.mul_succ] at room
    obtain ⟨t, place, called, near, here, rank⟩ := call_next some (c := c) (by omega)
    obtain ⟨places, returned, length, rounds⟩ := ih (c := t) (by omega)
    refine ⟨place :: places, ?_, by rw [List.length_cons, length], ?_⟩
    · simp only [successive, called, returned, List.map_cons]
    · intro k hk
      cases k with
      | zero => exact here.symm
      | succ k =>
        rw [List.length_cons] at hk
        rw [List.getElem?_cons_succ, rounds k (by omega), rank, Nat.add_right_comm, Nat.add_assoc]

/-- What is fair in a sequence of places. -/
structure Fair (bs : List Backend) (places : List Nat) : Prop where
  healthy : ∀ place ∈ places, up bs place = true
  cyclic : ∃ s, Rounds (ring bs) s places
  window : ∀ i, i + (ring bs).length ≤ places.length →
    ((places.drop i).take (ring bs).length).Perm (ring bs)
  even : ∀ a ∈ ring bs, ∀ b ∈ ring bs, places.count a ≤ places.count b + 1

theorem Fair.of_rounds {bs : List Backend} {s : Nat} {places : List Nat}
    (h : Rounds (ring bs) s places) : Fair bs places := by
  have distinct : (ring bs).Nodup := List.nodup_range.filter _
  refine ⟨?_, ⟨s, h⟩, ?_, ?_⟩
  · intro place mem
    obtain ⟨k, hk⟩ := List.mem_iff_getElem?.mp mem
    have met := h k (List.getElem?_eq_some_iff.mp hk).1
    rw [hk] at met
    exact (List.mem_filter.mp (List.mem_of_getElem? met.symm)).2
  · intro i fits
    apply Rounds.perm ((h.drop i).take _)
    rw [List.length_take, List.length_drop]
    omega
  · intro a ha b hb
    have most := (h.count distinct ha).2
    have least := (h.count distinct hb).1
    omega

/-- Calls that do not overlap, from a counter that has room for all of them. -/
theorem successive_calls_fair (bs : List Backend) (c m : Nat)
    (some : ∃ b ∈ bs, b.healthy = true) (room : c + bs.length * (m + 1) < 2 ^ 64) :
    ∃ places, (successive m ⟨bs, c⟩).2 = places.map Option.some ∧ places.length = m ∧
      Fair bs places := by
  rw [Nat.mul_succ] at room
  obtain ⟨places, returned, length, rounds⟩ := successive_rounds some m (c := c) (by omega)
  exact ⟨places, returned, length, Fair.of_rounds rounds⟩

/-- Three backends, the second of them unhealthy. -/
theorem successive_calls_fair_three :
    Fair [⟨"http://a", true, true⟩, ⟨"http://b", false, true⟩, ⟨"http://c", true, true⟩]
      [2, 0, 2, 0, 2] := by
  obtain ⟨places, returned, -, fair⟩ := successive_calls_fair
    [⟨"http://a", true, true⟩, ⟨"http://b", false, true⟩, ⟨"http://c", true, true⟩] 0 5
    ⟨_, List.mem_cons_self, rfl⟩ (by decide)
  have same : places.map some = [2, 0, 2, 0, 2].map some := returned.symm.trans (by decide)
  have inj : Function.Injective (some : Nat → Option Nat) := Option.some_injective Nat
  rwa [List.map_injective_iff.mpr inj same] at fair

/-! ## Wrap-around -/

theorem scan_none {bs : List Backend} {turns c : Nat} :
    (scan bs turns c).2 = none ↔
      ∀ i, 1 ≤ i → i ≤ turns → up bs ((c + i) % 2 ^ 64 % bs.length) = false := by
  induction turns generalizing c with
  | zero =>
    refine iff_of_true rfl ?_
    intro i pos le
    omega
  | succ turns ih =>
    unfold scan
    simp only
    by_cases on : up bs ((c + 1) % 2 ^ 64 % bs.length) = true
    · rw [if_pos on]
      refine iff_of_false (by simp) ?_
      intro off
      have first := off 1 (Nat.le_refl _) (by omega)
      rw [on] at first
      cases first
    · rw [if_neg on, ih]
      constructor
      · intro later i pos le
        by_cases first : i = 1
        · subst first
          simpa using on
        · obtain ⟨j, rfl⟩ := Nat.exists_eq_add_of_le pos
          have here := later j (by omega) (by omega)
          rwa [Nat.mod_add_mod, Nat.add_assoc] at here
      · intro all i pos le
        rw [Nat.mod_add_mod, Nat.add_assoc]
        exact all (1 + i) (by omega) (by omega)

theorem scan_healthy {bs : List Backend} {turns c place : Nat}
    (h : (scan bs turns c).2 = some place) : up bs place = true := by
  induction turns generalizing c with
  | zero => cases h
  | succ turns ih =>
    unfold scan at h
    simp only at h
    split at h
    · rename_i on
      cases h
      exact on
    · exact ih h

/-- Some turn of a call on `n` backends draws this place. -/
def Drawn (n c place : Nat) : Prop := ∃ i, 1 ≤ i ∧ i ≤ n ∧ (c + i) % 2 ^ 64 % n = place

/-- How far the place lies behind the one at which the counter wraps. -/
def behind (n place : Nat) : Nat := (place + n - 2 ^ 64 % n) % n

theorem behind_spec {n place : Nat} (lt : place < n) : (2 ^ 64 + behind n place) % n = place := by
  have below : 2 ^ 64 % n < n := Nat.mod_lt _ (by omega)
  have exact_ : 2 ^ 64 % n + (place + n - 2 ^ 64 % n) = place + n := by omega
  rw [behind, Nat.add_mod_mod, ← Nat.mod_add_mod, exact_, Nat.add_mod_right, Nat.mod_eq_of_lt lt]

/-- A counter value below the wrap draws the place exactly if they are equally
far from it. -/
theorem behind_before_wrap {n place j : Nat} (lt : place < n) (pos : 0 < j) (near : j < n)
    (short : n < 2 ^ 64) : (2 ^ 64 - j) % n = place ↔ j + behind n place = n := by
  have back : 2 ^ 64 - j + (j + behind n place) = 2 ^ 64 + behind n place := by omega
  have spec := behind_spec lt
  rw [← back] at spec
  constructor
  · intro lands
    have same : Nat.ModEq n (2 ^ 64 - j + (j + behind n place)) (2 ^ 64 - j + 0) := by
      rw [Nat.ModEq, spec, Nat.add_zero, lands]
    have turns : n ∣ j + behind n place :=
      (Nat.modEq_zero_iff_dvd).mp (Nat.ModEq.add_left_cancel' _ same)
    have below : behind n place < n := Nat.mod_lt _ (by omega)
    exact Nat.eq_of_dvd_of_lt_two_mul (by omega) turns (by omega)
  · intro turn
    rw [turn, Nat.add_mod_right] at spec
    exact spec

theorem drawn_iff {n c place : Nat} (slice : n < 2 ^ 63) (counter : c < 2 ^ 64) (lt : place < n) :
    Drawn n c place ↔ place + 2 ^ 64 ≤ c + n ∨ n ≤ behind n place + (2 ^ 64 - 1 - c) := by
  have below : behind n place < n := Nat.mod_lt _ (by omega)
  by_cases room : c + n < 2 ^ 64
  · refine iff_of_true ?_ (.inr (by omega))
    obtain ⟨m, small, lands⟩ := exists_turns c lt
    refine ⟨m + 1, by omega, by omega, ?_⟩
    rw [← Nat.add_assoc, Nat.mod_eq_of_lt (a := c + m + 1) (by omega), lands]
  · constructor
    · rintro ⟨i, pos, le, lands⟩
      by_cases before : c + i < 2 ^ 64
      · right
        rw [Nat.mod_eq_of_lt before] at lands
        have back : c + i = 2 ^ 64 - (2 ^ 64 - (c + i)) := by omega
        rw [back] at lands
        have turn := (behind_before_wrap lt (by omega) (by omega) (by omega)).mp lands
        omega
      · left
        have wrapped : (c + i) % 2 ^ 64 = c + i - 2 ^ 64 := by
          rw [Nat.mod_eq_sub_mod (Nat.not_lt.mp before), Nat.mod_eq_of_lt (by omega)]
        rw [wrapped, Nat.mod_eq_of_lt (by omega)] at lands
        omega
    · rintro (after | before)
      · refine ⟨place + 2 ^ 64 - c, by omega, by omega, ?_⟩
        have sum : c + (place + 2 ^ 64 - c) = place + 2 ^ 64 := by omega
        rw [sum, Nat.add_mod_right, Nat.mod_eq_of_lt (b := 2 ^ 64) (by omega), Nat.mod_eq_of_lt lt]
      · have lands := (behind_before_wrap (j := n - behind n place) lt (by omega) ?_ (by omega)).mpr
          (by omega)
        · refine ⟨2 ^ 64 - (n - behind n place) - c, by omega, by omega, ?_⟩
          have sum : c + (2 ^ 64 - (n - behind n place) - c) = 2 ^ 64 - (n - behind n place) := by
            omega
          rw [sum, Nat.mod_eq_of_lt (b := 2 ^ 64) (by omega), lands]
        · omega

theorem call_none (bs : List Backend) (c : Nat) :
    (call ⟨bs, c⟩).2 = none ↔ ∀ place, up bs place = true → ¬ Drawn bs.length c place := by
  rw [call, scan_none]
  constructor
  · rintro off place on ⟨i, pos, le, rfl⟩
    rw [off i pos le] at on
    cases on
  · intro all i pos le
    rw [← Bool.not_eq_true]
    intro on
    exact all _ on ⟨i, pos, le, rfl⟩

theorem up_iff {bs : List Backend} {place : Nat} :
    up bs place = true ↔ ∃ b, bs[place]? = some b ∧ b.healthy = true := by
  simp [up, Option.any_eq_true]

theorem up_lt {bs : List Backend} {place : Nat} (on : up bs place = true) : place < bs.length := by
  obtain ⟨b, at_, -⟩ := up_iff.mp on
  exact (List.getElem?_eq_some_iff.mp at_).1

theorem none_up_iff {bs : List Backend} :
    (∀ b ∈ bs, b.healthy = false) ↔ ∀ place, up bs place = false := by
  constructor
  · intro off place
    rw [← Bool.not_eq_true, up_iff]
    rintro ⟨b, at_, on⟩
    rw [off b (List.mem_of_getElem? at_)] at on
    cases on
  · intro off b mem
    obtain ⟨place, at_⟩ := List.mem_iff_getElem?.mp mem
    rw [← Bool.not_eq_true]
    intro on
    have up := up_iff.mpr ⟨b, at_, on⟩
    rw [off place] at up
    cases up

/-- What one call owes its caller. -/
structure Selects (bs : List Backend) (c : Nat) : Prop where
  nil : (call ⟨bs, c⟩).2 = none ↔ ∀ b ∈ bs, b.healthy = false
  healthy : ∀ place, (call ⟨bs, c⟩).2 = some place → up bs place = true

theorem selects_iff {bs : List Backend} {c : Nat} (slice : bs.length < 2 ^ 63)
    (counter : c < 2 ^ 64) :
    Selects bs c ↔ (∀ b ∈ bs, b.healthy = false) ∨ ∃ place, up bs place = true ∧
      (place + 2 ^ 64 ≤ c + bs.length ∨
        bs.length ≤ (place + bs.length - 2 ^ 64 % bs.length) % bs.length + (2 ^ 64 - 1 - c)) := by
  have drawn {place : Nat} (on : up bs place = true) := drawn_iff slice counter (up_lt on)
  have nil := call_none bs c
  constructor
  · intro h
    by_cases none : (call ⟨bs, c⟩).2 = none
    · exact .inl (h.nil.mp none)
    · simp only [nil, not_forall, not_not, exists_prop] at none
      obtain ⟨place, on, here⟩ := none
      exact .inr ⟨place, on, (drawn on).mp here⟩
  · intro h
    refine ⟨?_, fun place found => scan_healthy found⟩
    rcases h with off | ⟨place, on, here⟩
    · refine iff_of_true (nil.mpr ?_) off
      intro place on
      rw [none_up_iff.mp off place] at on
      cases on
    · refine iff_of_false ?_ ?_
      · intro none
        exact nil.mp none place on ((drawn on).mpr here)
      · intro off
        rw [none_up_iff.mp off place] at on
        cases on

/-- One call by itself at any value of the counter. It misses the healthy
backends exactly if the counter wraps on the way and the turns before and
after the wrap draw none of their places. -/
theorem next_across_wrap_iff (bs : List Backend) (c : Nat) (slice : bs.length < 2 ^ 63)
    (counter : c < 2 ^ 64) :
    (Selects bs c ↔ (∀ b ∈ bs, b.healthy = false) ∨ ∃ place, up bs place = true ∧
      (place + 2 ^ 64 ≤ c + bs.length ∨
        bs.length ≤ (place + bs.length - 2 ^ 64 % bs.length) % bs.length + (2 ^ 64 - 1 - c))) ∧
    (c + bs.length < 2 ^ 64 ∨ bs.length ∣ 2 ^ 64 → Selects bs c) := by
  have exact_ := selects_iff slice counter
  refine ⟨exact_, ?_⟩
  intro enough
  rw [exact_]
  by_cases off : ∀ place, up bs place = false
  · exact .inl (none_up_iff.mpr off)
  · simp only [not_forall, Bool.not_eq_false] at off
    obtain ⟨place, on⟩ := off
    refine .inr ⟨place, on, ?_⟩
    have lt := up_lt on
    rcases enough with room | even
    · omega
    · have whole : (place + bs.length - 2 ^ 64 % bs.length) % bs.length = place := by
        rw [Nat.mod_eq_zero_of_dvd even, Nat.sub_zero, Nat.add_mod_right, Nat.mod_eq_of_lt lt]
      omega

/-- Two backends at the last value of the counter. -/
theorem next_across_wrap_pair :
    Selects [⟨"http://a", true, true⟩, ⟨"http://b", false, true⟩] (2 ^ 64 - 1) :=
  (next_across_wrap_iff _ _ (by decide) (by decide)).2 (.inr (by decide))

/-- Three backends, of which only the last is healthy, two turns before the
wrap: the turns draw the places 0, 0 and 1. -/
theorem next_misses_across_wrap :
    ¬ ∀ (bs : List Backend) (c : Nat), bs ≠ [] → c < 2 ^ 64 → Selects bs c := by
  intro always
  have h := always [⟨"http://a", false, true⟩, ⟨"http://b", false, true⟩, ⟨"http://c", true, true⟩]
    (2 ^ 64 - 2) (by decide) (by decide)
  have nil : (call ⟨[⟨"http://a", false, true⟩, ⟨"http://b", false, true⟩,
      ⟨"http://c", true, true⟩], 2 ^ 64 - 2⟩).2 = none := by decide
  have off := h.nil.mp nil
  simp at off

end RoundRobin

end TorusProxy
