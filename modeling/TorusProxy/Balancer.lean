import Mathlib.Data.List.Perm.Subperm
import TorusProxy.Handler
import TorusProxy.Lib.Threads

/-! `loadbalancer.RoundRobin`: any number of calls of `Next` on one balancer.
Each draws its places from one counter that all of them move. -/
namespace TorusProxy

open Threads

/-! ## The balancer -/

structure RoundRobin where
  backends : List Backend
  index : Nat

/-- The places of `Next`. `drawn` are the places the call has looked at in vain;
no step reads it. -/
inductive NextPC
  | begin
  | loop (i : Nat) (drawn : List Nat)
  | isHealthy (i idx : Nat) (drawn : List Nat)
  /-- Returned the backend at this place, or nil. -/
  | returned (found : Option Nat)
  deriving DecidableEq, Repr

def RoundRobin.next (r : RoundRobin) : NextPC → Option (RoundRobin × NextPC)
  | .begin => some (r, if r.backends.length = 0 then .returned none else .loop 0 [])
  | .loop i drawn =>
    if i < r.backends.length then
      let index := (r.index + 1) % 2 ^ 64
      some ({ r with index := index }, .isHealthy i (index % r.backends.length) drawn)
    else some (r, .returned none)
  | .isHealthy i idx drawn =>
    match r.backends[idx]? with
    | none => none
    | some b => some (r, if b.healthy then .returned (some idx) else .loop (i + 1) (idx :: drawn))
  | .returned _ => none

/-- The calls share the balancer; the health flags stay as they are. -/
abbrev balancing : Machine RoundRobin NextPC Unit Unit Empty where
  step := fun r pc _ => (r.next pc).map fun (r', pc') => (r', pc', [])
  enter := fun r _ => some (r, .begin)
  change := fun _ e => nomatch e

namespace RoundRobin

abbrev Calls := World RoundRobin NextPC

abbrev Run (ok : Calls → Action Unit Unit Empty → Prop) : Calls → Calls → Prop :=
  Exec.Run balancing.next ok

/-- Everything one step of a call can do. -/
inductive Move (r : RoundRobin) : NextPC → RoundRobin → NextPC → Prop
  | empty (nil : r.backends = []) : Move r .begin r (.returned none)
  | begin (some : r.backends ≠ []) : Move r .begin r (.loop 0 [])
  | draw (i : Nat) (drawn : List Nat) (lt : i < r.backends.length) :
      Move r (.loop i drawn) { r with index := (r.index + 1) % 2 ^ 64 }
        (.isHealthy i ((r.index + 1) % 2 ^ 64 % r.backends.length) drawn)
  | exhausted (i : Nat) (drawn : List Nat) (le : r.backends.length ≤ i) :
      Move r (.loop i drawn) r (.returned none)
  | healthy (i idx : Nat) (drawn : List Nat) (b : Backend) (at_ : r.backends[idx]? = some b)
      (on : b.healthy = true) : Move r (.isHealthy i idx drawn) r (.returned (some idx))
  | unhealthy (i idx : Nat) (drawn : List Nat) (b : Backend) (at_ : r.backends[idx]? = some b)
      (off : b.healthy = false) : Move r (.isHealthy i idx drawn) r (.loop (i + 1) (idx :: drawn))

theorem next_move {r r' : RoundRobin} {pc pc' : NextPC} (h : r.next pc = some (r', pc')) :
    Move r pc r' pc' := by
  cases pc with
  | begin =>
    cases h
    split
    · rename_i none
      exact .empty (List.length_eq_zero_iff.mp none)
    · rename_i some
      exact .begin fun none => some (by rw [none]; rfl)
  | loop i drawn =>
    simp only [next] at h
    split at h
    · rename_i lt
      cases h
      exact .draw i drawn lt
    · rename_i le
      cases h
      exact .exhausted i drawn (Nat.not_lt.mp le)
  | isHealthy i idx drawn =>
    simp only [next] at h
    split at h
    · cases h
    · rename_i b at_
      cases h
      cases on : b.healthy with
      | true => exact .healthy i idx drawn b at_ on
      | false => exact .unhealthy i idx drawn b at_ on
  | returned found => cases h

theorem Move.backends {r r' : RoundRobin} {pc pc' : NextPC} (h : Move r pc r' pc') :
    r'.backends = r.backends := by
  cases h <;> rfl

/-- A step of a thread of the machine is a step of a call. -/
theorem step_move {r r' : RoundRobin} {pc pc' : NextPC} {k : Unit} {new : List NextPC}
    (h : balancing.step r pc k = some (r', pc', new)) : Move r pc r' pc' ∧ new = [] := by
  obtain ⟨⟨r₁, pc₁⟩, hs, he⟩ := Option.map_eq_some_iff.mp h
  cases he
  exact ⟨next_move hs, rfl⟩

theorem run_backends {ok : Calls → Action Unit Unit Empty → Prop} {w w' : Calls}
    (r : Run ok w w') : w'.shared.backends = w.shared.backends := by
  refine r.invariant (fun v => v.shared.backends = w.shared.backends) rfl ?_
  intro a u v _ same _ hs
  cases Machine.next_moved hs with
  | step at_ fires => exact (step_move fires).1.backends.trans same
  | enter fires => cases fires; exact same
  | change fires => rename_i e; exact nomatch e

/-- An assertion about the calls that every step of a call establishes for
itself and that looks at the health flags only. -/
theorem assertion {ok : Calls → Action Unit Unit Empty → Prop} {w w' : Calls}
    (A : List Backend → NextPC → Prop) (r : Run ok w w')
    (init : ∀ pc ∈ w.threads, A w.shared.backends pc) (begin : ∀ bs, A bs .begin)
    (step : ∀ v i k pc r' pc', ok v (.run i k) → v.threads[i]? = some pc → A v.shared.backends pc →
      Move v.shared pc r' pc' → A r'.backends pc') :
    ∀ pc ∈ w'.threads, A w'.shared.backends pc := by
  refine r.invariant (fun v => ∀ pc ∈ v.threads, A v.shared.backends pc) init ?_
  intro a u v _ inv hok hs
  refine (Machine.next_moved hs).assertion (fun r pc => A r.backends pc) inv ?_ ?_ ?_ ?_
  · rintro i pc k r' pc' new rfl hi before fires
    obtain ⟨move, rfl⟩ := step_move fires
    exact ⟨step u i k pc r' pc' hok hi before move, by simp⟩
  · intro i j pc qc k r' pc' new _ _ _ _ fires before
    rw [(step_move fires).1.backends]
    exact before
  · rintro x r' pc _ ⟨⟩
    exact ⟨begin _, fun _ _ before => before⟩
  · intro e
    exact nomatch e

end RoundRobin

/-! ## Selection -/

/-- About to draw a place it has looked at before. -/
def NextPC.again (r : RoundRobin) : NextPC → Bool
  | .loop i drawn =>
    i < r.backends.length && drawn.contains ((r.index + 1) % 2 ^ 64 % r.backends.length)
  | _ => false

/-- About to move the counter past its last value. -/
def NextPC.wraps (r : RoundRobin) : NextPC → Bool
  | .loop i _ => i < r.backends.length && r.index + 1 == 2 ^ 64
  | _ => false

namespace RoundRobin

/-- Every call that has returned has returned a healthy backend. -/
def AllFound (w : Calls) : Prop :=
  ∀ found, .returned found ∈ w.threads →
    ∃ idx b, found = some idx ∧ w.shared.backends[idx]? = some b ∧ b.healthy = true

/-- No call draws a place twice. -/
def Anew (w : Calls) : Action Unit Unit Empty → Prop
  | .run i _ => ∀ pc ∈ w.threads[i]?, pc.again w.shared = false
  | _ => True

def NoWrap (w : Calls) : Action Unit Unit Empty → Prop
  | .run i _ => ∀ pc ∈ w.threads[i]?, pc.wraps w.shared = false
  | _ => True

instance : ∀ w a, Decidable (Anew w a)
  | w, .run i _ => inferInstanceAs (Decidable (∀ pc ∈ w.threads[i]?, pc.again w.shared = false))
  | _, .call _ => .isTrue trivial
  | _, .env _ => .isTrue trivial

instance : ∀ w a, Decidable (NoWrap w a)
  | w, .run i _ => inferInstanceAs (Decidable (∀ pc ∈ w.threads[i]?, pc.wraps w.shared = false))
  | _, .call _ => .isTrue trivial
  | _, .env _ => .isTrue trivial

/-- The places a call has looked at are different ones, and all unhealthy. -/
structure InVain (bs : List Backend) (i : Nat) (drawn : List Nat) : Prop where
  turns : i = drawn.length
  nodup : drawn.Nodup
  unhealthy : ∀ idx ∈ drawn, ∃ b, bs[idx]? = some b ∧ b.healthy = false

def Searching (bs : List Backend) : NextPC → Prop
  | .begin => True
  | .loop i drawn => InVain bs i drawn
  | .isHealthy i idx drawn => InVain bs i drawn ∧ idx ∉ drawn
  | .returned found => ∃ idx b, found = some idx ∧ bs[idx]? = some b ∧ b.healthy = true

/-- There are not as many unhealthy places as turns. -/
theorem InVain.lt_length {bs : List Backend} {i : Nat} {drawn : List Nat} (h : InVain bs i drawn)
    (some : ∃ b ∈ bs, b.healthy = true) : i < bs.length := by
  obtain ⟨b, mem, on⟩ := some
  obtain ⟨place, here⟩ := List.mem_iff_getElem?.mp mem
  have bound (idx : Nat) (x : Backend) (at_ : bs[idx]? = Option.some x) : idx < bs.length :=
    (List.getElem?_eq_some_iff.mp at_).1
  have other : place ∉ drawn := by
    intro hit
    obtain ⟨x, at_, off⟩ := h.unhealthy place hit
    cases here.symm.trans at_
    rw [on] at off
    cases off
  have inside : place :: drawn ⊆ List.range bs.length := by
    intro idx hit
    rw [List.mem_range]
    rcases List.mem_cons.mp hit with rfl | hit
    · exact bound _ _ here
    · obtain ⟨x, at_, -⟩ := h.unhealthy idx hit
      exact bound _ _ at_
  have distinct : (place :: drawn).Nodup := List.nodup_cons.mpr ⟨other, h.nodup⟩
  have le := (List.subperm_of_subset distinct inside).length_le
  rw [List.length_range, List.length_cons, ← h.turns] at le
  exact le

theorem searching_step {r r' : RoundRobin} {pc pc' : NextPC} (some : ∃ b ∈ r.backends, b.healthy = true)
    (anew : pc.again r = false) (h : Searching r.backends pc) (move : Move r pc r' pc') :
    Searching r'.backends pc' := by
  cases move with
  | empty nil =>
    obtain ⟨b, mem, -⟩ := some
    rw [nil] at mem
    cases mem
  | begin => exact ⟨rfl, .nil, by simp⟩
  | draw i drawn lt =>
    refine ⟨h, ?_⟩
    simpa [NextPC.again, lt] using anew
  | exhausted i drawn le => exact absurd (h.lt_length some) (Nat.not_lt.mpr le)
  | healthy i idx drawn b at_ on => exact ⟨idx, b, rfl, at_, on⟩
  | unhealthy i idx drawn b at_ off =>
    obtain ⟨vain, fresh⟩ := h
    refine ⟨by rw [vain.turns, List.length_cons], List.nodup_cons.mpr ⟨fresh, vain.nodup⟩, ?_⟩
    intro k hit
    rcases List.mem_cons.mp hit with rfl | hit
    · exact ⟨b, at_, off⟩
    · exact vain.unhealthy k hit

theorem allFound_of_anew {bs : List Backend} {c : Nat} {w : Calls}
    (some : ∃ b ∈ bs, b.healthy = true) (r : Run Anew ⟨⟨bs, c⟩, []⟩ w) : AllFound w := by
  have same := run_backends r
  have searching := assertion (fun bs' pc => bs' = bs → Searching bs' pc) r (by simp)
    (fun _ _ => trivial) ?_
  · intro found ht
    exact searching _ ht same
  · intro v i k pc r' pc' anew at_ before move same'
    rw [move.backends] at same'
    have here := before same'
    exact searching_step (same' ▸ some) (anew pc at_) here move

theorem allFound_of_healthy {ok : Calls → Action Unit Unit Empty → Prop} {bs : List Backend}
    {c : Nat} {w : Calls} (nonempty : bs ≠ []) (all : ∀ b ∈ bs, b.healthy = true)
    (r : Run ok ⟨⟨bs, c⟩, []⟩ w) : AllFound w := by
  have same := run_backends r
  have first := assertion (fun bs' pc => bs' = bs → match pc with
    | .begin => True
    | .loop i _ | .isHealthy i _ _ => i = 0
    | .returned found => ∃ idx b, found = some idx ∧ bs'[idx]? = some b ∧ b.healthy = true)
    r (by simp) (fun _ _ => trivial) ?_
  · intro found ht
    exact first _ ht same
  · intro v i k pc r' pc' _ _ before move same'
    rw [move.backends] at same'
    have here := before same'
    cases move with
    | empty nil => exact absurd (same' ▸ nil) nonempty
    | begin => rfl
    | draw => exact here
    | exhausted i drawn le =>
      obtain rfl : i = 0 := here
      rw [same'] at le
      exact absurd (List.length_eq_zero_iff.mp (Nat.le_zero.mp le)) nonempty
    | healthy i idx drawn b at_ on => exact ⟨idx, b, rfl, at_, on⟩
    | unhealthy i idx drawn b at_ off =>
      rw [same'] at at_
      rw [all b (List.mem_of_getElem? at_)] at off
      cases off

/-! ## A call that is overtaken -/

/-- Another call enters, draws and stays where it is. -/
theorem overtake (w : Calls) (nonempty : w.shared.backends ≠ [])
    (room : w.shared.index + 1 < 2 ^ 64) :
    ∃ w', Run NoWrap w w' ∧ w'.shared = { w.shared with index := w.shared.index + 1 } ∧
      ∀ pc, w.threads[0]? = some pc → w'.threads[0]? = some pc := by
  obtain ⟨⟨bs, c⟩, ts⟩ := w
  have pos : 0 < bs.length := List.length_pos_iff.mpr nonempty
  have short : c + 1 ≠ 2 ^ 64 := Nat.ne_of_lt room
  let w₁ : Calls := ⟨⟨bs, c⟩, ts ++ [.begin]⟩
  let w₂ : Calls := ⟨⟨bs, c⟩, ts ++ [.loop 0 []]⟩
  let w₃ : Calls := ⟨⟨bs, c + 1⟩, ts ++ [.isHealthy 0 ((c + 1) % bs.length) []]⟩
  have enters : balancing.next ⟨⟨bs, c⟩, ts⟩ (.call ()) = some w₁ := rfl
  have begins : balancing.next w₁ (.run ts.length ()) = some w₂ := by
    simp [w₁, w₂, Machine.next, RoundRobin.next, Nat.ne_of_gt pos]
  have draws : balancing.next w₂ (.run ts.length ()) = some w₃ := by
    have wrap : (c + 1) % 2 ^ 64 = c + 1 := Nat.mod_eq_of_lt room
    simp only [w₂, w₃, Machine.next, RoundRobin.next, pos, wrap, if_true, Option.map_some,
      List.getElem?_append_right (Nat.le_refl _), Nat.sub_self, List.getElem?_cons_zero,
      List.set_append_right _ _ (Nat.le_refl _), List.set_cons_zero, List.append_nil]
  have run : Run NoWrap ⟨⟨bs, c⟩, ts⟩ w₃ := by
    refine ((Exec.Run.snoc .refl trivial enters).snoc ?_ begins).snoc ?_ draws
    · simp [NoWrap, w₁, NextPC.wraps]
    · simp only [NoWrap, w₂, List.getElem?_append_right (Nat.le_refl _), Nat.sub_self,
        List.getElem?_cons_zero, Option.mem_def, Option.some.injEq, forall_eq', NextPC.wraps]
      rw [beq_false_of_ne short, Bool.and_false]
  refine ⟨w₃, run, rfl, ?_⟩
  intro pc at_
  have lt : 0 < ts.length := (List.getElem?_eq_some_iff.mp at_).1
  exact (List.getElem?_append_left lt).trans at_

theorem overtake_many (m : Nat) (w : Calls) (nonempty : w.shared.backends ≠ [])
    (room : w.shared.index + m < 2 ^ 64) :
    ∃ w', Run NoWrap w w' ∧ w'.shared = { w.shared with index := w.shared.index + m } ∧
      ∀ pc, w.threads[0]? = some pc → w'.threads[0]? = some pc := by
  induction m with
  | zero => exact ⟨w, .refl, rfl, fun _ at_ => at_⟩
  | succ m ih =>
    obtain ⟨u, run, shared, kept⟩ := ih (by omega)
    obtain ⟨v, more, shared', kept'⟩ := overtake u (by rw [shared]; exact nonempty)
      (by rw [shared]; simp only; omega)
    refine ⟨v, run.trans more, ?_, fun pc at_ => kept' pc (kept pc at_)⟩
    rw [shared', shared]
    rfl

/-- Some number of turns below `n` brings the counter to the place. -/
theorem exists_turns (c : Nat) {n place : Nat} (lt : place < n) :
    ∃ m, m < n ∧ (c + m + 1) % n = place := by
  refine ⟨(place + n - (c + 1) % n) % n, Nat.mod_lt _ (by omega), ?_⟩
  have below : (c + 1) % n < n := Nat.mod_lt _ (by omega)
  have exact_ : (c + 1) % n + (place + n - (c + 1) % n) = place + n := by omega
  calc (c + (place + n - (c + 1) % n) % n + 1) % n
      = ((c + 1) % n + (place + n - (c + 1) % n) % n % n) % n := by
        rw [← Nat.add_mod]
        congr 1
        omega
    _ = ((c + 1) % n + (place + n - (c + 1) % n)) % n := by rw [Nat.mod_mod, Nat.add_mod_mod]
    _ = place := by rw [exact_, Nat.add_mod_right, Nat.mod_eq_of_lt lt]

/-- One turn of the first call is led to an unhealthy place. -/
theorem miss {w : Calls} {place : Nat} {b : Backend} {i : Nat} {drawn : List Nat}
    (at_ : w.shared.backends[place]? = some b) (off : b.healthy = false)
    (first : w.threads[0]? = some (.loop i drawn)) (lt : i < w.shared.backends.length)
    (room : w.shared.index + w.shared.backends.length < 2 ^ 64) :
    ∃ w', Run NoWrap w w' ∧ w'.threads[0]? = some (.loop (i + 1) (place :: drawn)) ∧
      w'.shared.backends = w.shared.backends ∧
      w'.shared.index ≤ w.shared.index + w.shared.backends.length := by
  have bound : place < w.shared.backends.length := (List.getElem?_eq_some_iff.mp at_).1
  obtain ⟨m, small, lands⟩ := exists_turns w.shared.index bound
  obtain ⟨u, run, shared, kept⟩ := overtake_many m w (List.ne_nil_of_length_pos (by omega))
    (by omega)
  have here := kept _ first
  let v₁ : Calls := ⟨{ u.shared with index := u.shared.index + 1 }, u.threads.set 0 (.isHealthy i place drawn)⟩
  let v₂ : Calls := ⟨v₁.shared, v₁.threads.set 0 (.loop (i + 1) (place :: drawn))⟩
  have long : 0 < u.threads.length := (List.getElem?_eq_some_iff.mp here).1
  have index : u.shared.index = w.shared.index + m := by rw [shared]
  have backends : u.shared.backends = w.shared.backends := by rw [shared]
  have draws : balancing.next u (.run 0 ()) = some v₁ := by
    have small' : u.shared.index + 1 < 2 ^ 64 := by omega
    have lands' : (u.shared.index + 1) % u.shared.backends.length = place := by
      rw [index, backends]
      exact lands
    have wrap : (u.shared.index + 1) % 2 ^ 64 = u.shared.index + 1 := Nat.mod_eq_of_lt small'
    have turns : i < u.shared.backends.length := backends ▸ lt
    simp only [v₁, Machine.next, here, RoundRobin.next, turns, wrap, lands', if_true,
      Option.map_some, List.append_nil]
  have looks : balancing.next v₁ (.run 0 ()) = some v₂ := by
    have at_' : u.shared.backends[place]? = some b := backends ▸ at_
    simp [v₁, v₂, Machine.next, RoundRobin.next, long, at_', off]
  refine ⟨v₂, (run.snoc ?_ draws).snoc ?_ looks, ?_, backends, ?_⟩
  · simp only [NoWrap, here, Option.mem_def, Option.some.injEq, forall_eq', NextPC.wraps]
    have short : u.shared.index + 1 ≠ 2 ^ 64 := by omega
    rw [beq_false_of_ne short, Bool.and_false]
  · simp [NoWrap, v₁, long, NextPC.wraps]
  · simp [v₂, v₁, long]
  · show u.shared.index + 1 ≤ _
    omega

/-- All turns of the first call are led to an unhealthy place, `k` of them from here. -/
theorem misses {place : Nat} {b : Backend} (off : b.healthy = false) (k : Nat) {w : Calls} {i : Nat}
    {drawn : List Nat} (at_ : w.shared.backends[place]? = some b)
    (first : w.threads[0]? = some (.loop i drawn)) (left : i + k = w.shared.backends.length)
    (room : w.shared.index + k * w.shared.backends.length < 2 ^ 64) :
    ∃ w', Run NoWrap w w' ∧ .returned none ∈ w'.threads := by
  induction k generalizing w i drawn with
  | zero =>
    have long : 0 < w.threads.length := (List.getElem?_eq_some_iff.mp first).1
    let v : Calls := ⟨w.shared, w.threads.set 0 (.returned none)⟩
    have ends : balancing.next w (.run 0 ()) = some v := by
      have le : ¬ i < w.shared.backends.length := by omega
      simp [v, Machine.next, first, RoundRobin.next, le]
    refine ⟨v, Exec.Run.snoc .refl ?_ ends, ?_⟩
    · have le : ¬ i < w.shared.backends.length := by omega
      simp [NoWrap, first, NextPC.wraps, le]
    · exact List.mem_of_getElem? (List.getElem?_set_self long)
  | succ k ih =>
    have mul : (k + 1) * w.shared.backends.length =
      k * w.shared.backends.length + w.shared.backends.length := Nat.succ_mul _ _
    obtain ⟨u, run, next, backends, index⟩ := miss at_ off first (by omega) (by omega)
    obtain ⟨v, more, nil⟩ := ih (backends ▸ at_) next (by rw [backends]; omega)
      (by rw [backends]; omega)
    exact ⟨v, run.trans more, nil⟩

/-! ## Every call returns -/

/-- How many steps of its own a call has left at most, with `n` backends. -/
def left (n : Nat) : NextPC → Nat
  | .begin => 2 * n + 2
  | .loop i _ => 2 * (n - i) + 1
  | .isHealthy i _ _ => 2 * (n - i)
  | .returned _ => 0

/-- Every call has returned, or can take a step that brings it nearer to its
return, wherever the others are. -/
def Returning (w : Calls) : Prop :=
  ∀ pc ∈ w.threads, (∃ found, pc = .returned found) ∨ ∃ r' pc', w.shared.next pc = some (r', pc') ∧
    left w.shared.backends.length pc' < left w.shared.backends.length pc

def Within (bs : List Backend) : NextPC → Prop
  | .isHealthy i idx _ => i < bs.length ∧ idx < bs.length
  | _ => True

theorem within_step {r r' : RoundRobin} {pc pc' : NextPC} (move : Move r pc r' pc') :
    Within r'.backends pc' := by
  cases move with
  | draw i drawn lt => exact ⟨lt, Nat.mod_lt _ (Nat.lt_of_le_of_lt (Nat.zero_le i) lt)⟩
  | empty | begin | exhausted | healthy | unhealthy => trivial

theorem returning_of_within {r : RoundRobin} {pc : NextPC} (h : Within r.backends pc) :
    (∃ found, pc = .returned found) ∨ ∃ r' pc', r.next pc = some (r', pc') ∧
      left r.backends.length pc' < left r.backends.length pc := by
  cases pc with
  | begin =>
    refine .inr ⟨r, _, rfl, ?_⟩
    split <;> simp only [left] <;> omega
  | loop i drawn =>
    right
    simp only [next]
    split
    · exact ⟨_, _, rfl, by simp only [left]; omega⟩
    · exact ⟨_, _, rfl, by simp only [left]; omega⟩
  | isHealthy i idx drawn =>
    obtain ⟨lt, inside⟩ := h
    right
    simp only [next, List.getElem?_eq_getElem inside]
    refine ⟨_, _, rfl, ?_⟩
    split <;> simp only [left] <;> omega
  | returned found => exact .inl ⟨found, rfl⟩

theorem run_returning {ok : Calls → Action Unit Unit Empty → Prop} {r : RoundRobin} {w : Calls}
    (run : Run ok ⟨r, []⟩ w) : Returning w := by
  have within := assertion Within run (by simp) (fun _ => trivial)
    (fun _ _ _ _ _ _ _ _ _ move => within_step move)
  intro pc mem
  exact returning_of_within (within pc mem)

/-- An unhealthy place is enough for a schedule in which a call returns nil. -/
theorem exists_nil {bs : List Backend} {c : Nat} {b : Backend} (mem : b ∈ bs)
    (off : b.healthy = false) (room : c + bs.length * bs.length < 2 ^ 64) :
    ∃ w, Run NoWrap ⟨⟨bs, c⟩, []⟩ w ∧ .returned none ∈ w.threads := by
  obtain ⟨place, at_⟩ := List.mem_iff_getElem?.mp mem
  have nonempty : ¬ bs.length = 0 := by
    intro zero
    rw [List.length_eq_zero_iff.mp zero] at mem
    cases mem
  let w₁ : Calls := ⟨⟨bs, c⟩, [.begin]⟩
  let w₂ : Calls := ⟨⟨bs, c⟩, [.loop 0 []]⟩
  have enters : balancing.next ⟨⟨bs, c⟩, []⟩ (.call ()) = some w₁ := rfl
  have begins : balancing.next w₁ (.run 0 ()) = some w₂ := by
    simp [w₁, w₂, Machine.next, RoundRobin.next, nonempty]
  have run : Run NoWrap ⟨⟨bs, c⟩, []⟩ w₂ := by
    refine (Exec.Run.snoc .refl trivial enters).snoc ?_ begins
    simp [NoWrap, w₁, NextPC.wraps]
  obtain ⟨w, more, nil⟩ := misses (w := w₂) off bs.length at_ rfl (Nat.zero_add _) room
  exact ⟨w, run.trans more, nil⟩

/-- Selection among backends of which one is healthy. A call that never draws a
place twice finds it. Over all schedules that is sure only when no backend is
unhealthy: other calls can lead one back to the same place every time. -/
theorem next_finds_healthy {bs : List Backend} (c : Nat) (some : ∃ b ∈ bs, b.healthy = true) :
    (∀ w, Run Anew ⟨⟨bs, c⟩, []⟩ w → AllFound w ∧ Returning w) ∧
    (c + bs.length * bs.length < 2 ^ 64 →
      ((∀ w, Run NoWrap ⟨⟨bs, c⟩, []⟩ w → AllFound w) ↔ ∀ b ∈ bs, b.healthy = true)) := by
  refine ⟨fun w r => ⟨allFound_of_anew some r, run_returning r⟩, fun room => ?_⟩
  constructor
  · intro found b mem
    cases on : b.healthy with
    | true => rfl
    | false =>
      obtain ⟨w, r, nil⟩ := exists_nil mem on room
      obtain ⟨idx, _, none, -⟩ := found w r _ nil
      cases none
  · intro all w r
    obtain ⟨b, mem, -⟩ := some
    exact allFound_of_healthy (List.ne_nil_of_mem mem) all r

theorem next_finds_healthy_pair :
    (∃ w, Run Anew ⟨⟨[⟨"http://a", true, true⟩, ⟨"http://b", false, true⟩], 0⟩, []⟩ w ∧
      .returned (some 0) ∈ w.threads ∧ AllFound w) := by
  obtain ⟨w, r, mem⟩ := Exec.exists_run_of_execWhile balancing.next Anew
    ⟨⟨[⟨"http://a", true, true⟩, ⟨"http://b", false, true⟩], 0⟩, []⟩
    [.call (), .run 0 (), .run 0 (), .run 0 (), .run 0 (), .run 0 ()]
    (fun w => .returned (some 0) ∈ w.threads) (by decide)
  exact ⟨w, r, mem, ((next_finds_healthy 0 ⟨_, List.mem_cons_self, rfl⟩).1 w r).1⟩

/-- The second call takes the healthy place from under the first, which then
draws the unhealthy one again. -/
theorem next_misses_healthy :
    ¬ ∀ (bs : List Backend) (c : Nat), (∃ b ∈ bs, b.healthy = true) →
      ∀ w, Run NoWrap ⟨⟨bs, c⟩, []⟩ w → AllFound w := by
  intro all
  obtain ⟨w, r, nil⟩ := Exec.exists_run_of_execWhile balancing.next NoWrap
    ⟨⟨[⟨"http://a", true, true⟩, ⟨"http://b", false, true⟩], 0⟩, []⟩
    [.call (), .call (), .run 0 (), .run 1 (), .run 0 (), .run 1 (), .run 0 (), .run 0 (),
      .run 0 (), .run 0 ()]
    (fun w => .returned none ∈ w.threads) (by decide)
  obtain ⟨idx, _, none, -⟩ := all _ 0 ⟨_, List.mem_cons_self, rfl⟩ w r _ nil
  cases none

end RoundRobin

/-! ## The balancers of a runtime -/

/-- The service's balancer is over these places of the runtime's backends. -/
structure Runtime.Balances (rt : Runtime) (svc : Nat) (places : List Nat) (r : RoundRobin) :
    Prop where
  service : rt.services[svc]? = some ⟨places, r.index⟩
  backends : places.map (rt.backends[·]?) = r.backends.map some

/-- The request is where the call of `Next` is. -/
def HandlerPC.Follows (places : List Nat) : HandlerPC → NextPC → Prop
  | .next _ _ _ i, .loop j _ => i = j
  | .isHealthy _ _ _ i b, .isHealthy j idx _ => i = j ∧ places[idx]? = some b
  | .forward _ _ b, .returned (some idx) => places[idx]? = some b
  | .unavailable _ _, .returned none => True
  | _, _ => False

theorem Runtime.Balances.length {rt : Runtime} {svc : Nat} {places : List Nat} {r : RoundRobin}
    (h : rt.Balances svc places r) : places.length = r.backends.length := by
  have same := congrArg List.length h.backends
  simpa using same

theorem Runtime.Balances.place {rt : Runtime} {svc : Nat} {places : List Nat} {r : RoundRobin}
    (h : rt.Balances svc places r) {idx b : Nat} {x : Backend} (at_ : places[idx]? = some b)
    (here : rt.backends[b]? = some x) : r.backends[idx]? = some x := by
  have same := congrArg (·[idx]?) h.backends
  simp only [List.getElem?_map, at_, Option.map_some, here] at same
  cases found : r.backends[idx]? with
  | none =>
    rw [found] at same
    cases same
  | some y =>
    rw [found] at same
    cases same
    rfl

/-- A request picks its backend by a call of `Next` on its service's balancer. -/
theorem httpHandler_selects {req : Request} {sh sh' : Shared} {c : Choice} {pc pc' : HandlerPC}
    {rt : Rid} {route : Bytes} {svc i b : Nat} {places : List Nat} {r : RoundRobin} {npc : NextPC}
    (site : pc = .next rt route svc i ∨ pc = .isHealthy rt route svc i b)
    (balances : (sh.heap rt).Balances svc places r) (follows : pc.Follows places npc)
    (h : httpHandler req sh c pc = some (sh', pc')) :
    ∃ r' npc', r.next npc = some (r', npc') ∧ (sh'.heap rt).Balances svc places r' ∧
      pc'.Follows places npc' := by
  obtain rfl | rfl := site
  · cases npc with
    | loop j drawn =>
      obtain rfl : i = j := follows
      simp only [httpHandler, balances.service, balances.length] at h
      split at h
      · rename_i lt
        split at h
        · cases h
        · rename_i b at_
          cases h
          simp only [RoundRobin.next, if_pos lt]
          refine ⟨_, _, rfl, ⟨?_, ?_⟩, rfl, at_⟩
          · simp [Runtime.bumpIndex, balances.service]
          · simpa [Runtime.bumpIndex] using balances.backends
      · rename_i le
        cases h
        simp only [RoundRobin.next, if_neg le]
        exact ⟨_, _, rfl, balances, trivial⟩
    | begin | isHealthy | returned => exact follows.elim
  · cases npc with
    | isHealthy j idx drawn =>
      obtain ⟨rfl, at_⟩ := follows
      simp only [httpHandler] at h
      split at h
      · cases h
      · rename_i x here
        cases h
        have place := balances.place at_ here
        simp only [RoundRobin.next, place]
        refine ⟨_, _, rfl, balances, ?_⟩
        cases on : x.healthy with
        | true => exact at_
        | false => exact rfl
    | begin | loop | returned => exact follows.elim

end TorusProxy
