import Mathlib.Data.Rat.Floor
import TorusProxy.Lib.Budget

/-! The token bucket of the Node server's rate limiter: the Lua script of
`RedisRateLimiter` on the key of one client, with the key's time to live and without. -/
namespace TorusProxy.Node

open Budget

/-! ## The script -/

/-- The hash stored under the key. -/
structure Bucket where
  tokens : ℚ
  lastRefill : ℚ
  deriving DecidableEq, Repr

/-- The key as Redis keeps it, gone from `expires` on. -/
structure Key where
  bucket : Bucket
  expires : ℚ
  deriving DecidableEq, Repr

/-- What `HMGET` finds at `now`. -/
def Key.hmget (key : Option Key) (now : ℚ) : Option Bucket :=
  key.bind fun key => if now < key.expires then some key.bucket else none

section
variable (capacity refillRatePerSecond : ℚ)

def refillAmount (now : ℚ) (bucket : Bucket) : ℤ :=
  let timePassed := max 0 (now - bucket.lastRefill)
  ⌊timePassed * refillRatePerSecond⌋

/-- The bucket as the script brings it up to `now`. Only a whole token moves the
time of the last refill. -/
def refill (now : ℚ) : Option Bucket → Bucket
  | none => { tokens := capacity, lastRefill := now }
  | some bucket =>
    let amount := refillAmount refillRatePerSecond now bucket
    { tokens := min capacity (bucket.tokens + amount)
      lastRefill := if amount > 0 then now else bucket.lastRefill }

/-- What the script writes with `HMSET` when it allows the call. A rejected call
writes nothing. -/
def luaScript (now : ℚ) (found : Option Bucket) : Option Bucket :=
  let bucket := refill capacity refillRatePerSecond now found
  if bucket.tokens ≥ 1 then some { bucket with tokens := bucket.tokens - 1 } else none

/-- The seconds the script gives to `EXPIRE`. -/
def ttl : ℚ := ⌈capacity / refillRatePerSecond⌉ * 2

/-- One execution of the script on the key. -/
def eval (key : Option Key) (now : ℚ) : Bool × Option Key :=
  match luaScript capacity refillRatePerSecond now (Key.hmget key now) with
  | some bucket =>
    (true, some { bucket := bucket, expires := now + ttl capacity refillRatePerSecond })
  | none => (false, key)

/-- One execution where no key expires. -/
def evalForever (found : Option Bucket) (now : ℚ) : Bool × Option Bucket :=
  match luaScript capacity refillRatePerSecond now found with
  | some bucket => (true, some bucket)
  | none => (false, found)

end

/-! ## One call -/

/-- What holds of a stored bucket at any time after the last call. -/
structure Bucket.Fits (capacity : ℚ) (bucket : Bucket) (t : ℚ) : Prop where
  nonneg : 0 ≤ bucket.tokens
  room : bucket.tokens ≤ capacity - 1
  past : bucket.lastRefill ≤ t

section
variable {capacity rate : ℚ}

/-- Whole tokens the time has earned: between what it is worth and one less. -/
theorem refillAmount_bounds {bucket : Bucket} {now : ℚ} (rate_pos : 0 < rate)
    (past : bucket.lastRefill ≤ now) :
    0 ≤ refillAmount rate now bucket ∧
    (refillAmount rate now bucket : ℚ) ≤ rate * (now - bucket.lastRefill) ∧
    rate * (now - bucket.lastRefill) < refillAmount rate now bucket + 1 := by
  have passed : max 0 (now - bucket.lastRefill) = now - bucket.lastRefill :=
    max_eq_right (sub_nonneg.mpr past)
  rw [refillAmount, passed, mul_comm]
  have earned : 0 ≤ rate * (now - bucket.lastRefill) :=
    mul_nonneg rate_pos.le (sub_nonneg.mpr past)
  exact ⟨Int.floor_nonneg.mpr earned, Int.floor_le _, Int.lt_floor_add_one _⟩

/-- All that one execution can do: find a full bucket, earn whole tokens, take a
token there was, or refuse an empty bucket. -/
inductive Call (capacity rate now : ℚ) : Option Bucket → Option Bucket → Prop
  | full : Call capacity rate now none (some { tokens := capacity - 1, lastRefill := now })
  | earned (bucket : Bucket) (amount : ℚ) (one : 1 ≤ amount)
      (worth : amount ≤ rate * (now - bucket.lastRefill)) :
      Call capacity rate now (some bucket)
        (some { tokens := min capacity (bucket.tokens + amount) - 1, lastRefill := now })
  | saved (bucket : Bucket) (one : 1 ≤ bucket.tokens)
      (early : rate * (now - bucket.lastRefill) < 1) :
      Call capacity rate now (some bucket) (some { bucket with tokens := bucket.tokens - 1 })
  | refused (bucket : Bucket) (early : rate * (now - bucket.lastRefill) < 1) :
      Call capacity rate now (some bucket) none

/-- A bucket of the run, or none yet. -/
def Fits (capacity : ℚ) (found : Option Bucket) (t : ℚ) : Prop :=
  ∀ bucket, found = some bucket → bucket.Fits capacity t

theorem refill_earned {bucket : Bucket} {now : ℚ} (earned : refillAmount rate now bucket > 0) :
    refill capacity rate now (some bucket) =
      { tokens := min capacity (bucket.tokens + refillAmount rate now bucket)
        lastRefill := now } := by
  simp only [refill, if_pos earned]

theorem refill_early {bucket : Bucket} {now : ℚ} (zero : refillAmount rate now bucket = 0)
    (room : bucket.tokens ≤ capacity) : refill capacity rate now (some bucket) = bucket := by
  simp only [refill, zero, gt_iff_lt, lt_self_iff_false, if_false, Int.cast_zero, add_zero,
    min_eq_right room]

theorem luaScript_call {found : Option Bucket} {now : ℚ} (one : 1 ≤ capacity)
    (rate_pos : 0 < rate) (fits : Fits capacity found now) :
    Call capacity rate now found (luaScript capacity rate now found) := by
  cases found with
  | none =>
    have allow : (refill capacity rate now none).tokens ≥ 1 := one
    simp only [luaScript, if_pos allow]
    exact .full
  | some bucket =>
    obtain ⟨nonneg, room, past⟩ := fits bucket rfl
    obtain ⟨whole, worth, short⟩ := refillAmount_bounds rate_pos past
    simp only [luaScript]
    by_cases earned : refillAmount rate now bucket > 0
    · have amount : (1 : ℚ) ≤ refillAmount rate now bucket := by exact_mod_cast earned
      have enough : min capacity (bucket.tokens + refillAmount rate now bucket) ≥ 1 :=
        le_min one (by linarith)
      rw [refill_earned earned, if_pos enough]
      exact .earned bucket _ amount worth
    · have zero : refillAmount rate now bucket = 0 := by omega
      have early : rate * (now - bucket.lastRefill) < 1 := by simpa [zero] using short
      rw [refill_early zero (by linarith)]
      split
      · rename_i has
        exact .saved bucket has early
      · exact .refused bucket early

/-! ## The budget -/

theorem Fits.later {found : Option Bucket} {t now : ℚ} (fits : Fits capacity found t)
    (le : t ≤ now) : Fits capacity found now := by
  intro bucket some
  have fit := fits bucket some
  exact { fit with past := fit.past.trans le }

/-- Whatever a call writes is a bucket of the run. -/
theorem Call.fits {found : Option Bucket} {bucket : Bucket} {now : ℚ} (one : 1 ≤ capacity)
    (fits : Fits capacity found now) (call : Call capacity rate now found (some bucket)) :
    bucket.Fits capacity now := by
  cases call with
  | full => exact ⟨sub_nonneg.mpr one, le_rfl, le_rfl⟩
  | earned before amount whole worth =>
    have nonneg := (fits before rfl).nonneg
    have enough : 1 ≤ min capacity (before.tokens + amount) := le_min one (by linarith)
    have most := min_le_left capacity (before.tokens + amount)
    exact ⟨by linarith, by linarith, le_rfl⟩
  | saved before has early =>
    obtain ⟨nonneg, room, past⟩ := fits before rfl
    exact ⟨sub_nonneg.mpr has, by linarith, past⟩

theorem evalForever_fits {found : Option Bucket} {t now : ℚ} (one : 1 ≤ capacity)
    (rate_pos : 0 < rate) (fits : Fits capacity found t) (le : t ≤ now) :
    Fits capacity (evalForever capacity rate found now).2 now := by
  have call := luaScript_call one rate_pos (fits.later le)
  unfold evalForever
  split
  · rename_i bucket written
    rw [written] at call
    intro stored eq
    cases eq
    exact call.fits one (fits.later le)
  · exact fits.later le

/-- The tokens of a bucket with what its time is worth, in fractions too. -/
def left (capacity rate : ℚ) : Option Bucket → ℚ → ℚ
  | none, _ => capacity
  | some bucket, t => bucket.tokens + rate * (t - bucket.lastRefill)

theorem left_nonneg {found : Option Bucket} {t : ℚ} (one : 1 ≤ capacity) (rate_pos : 0 < rate)
    (fits : Fits capacity found t) : 0 ≤ left capacity rate found t := by
  cases found with
  | none => exact zero_le_one.trans one
  | some bucket =>
    obtain ⟨nonneg, _, past⟩ := fits bucket rfl
    exact add_nonneg nonneg (mul_nonneg rate_pos.le (sub_nonneg.mpr past))

theorem left_fills (found : Option Bucket) {t now : ℚ} (rate_pos : 0 < rate) (le : t ≤ now) :
    left capacity rate found now ≤ left capacity rate found t + rate * (now - t) := by
  cases found with
  | none =>
    have inflow := mul_nonneg rate_pos.le (sub_nonneg.mpr le)
    simp only [left]
    linarith
  | some bucket =>
    apply le_of_eq
    simp only [left]
    ring

/-- Every allowed call takes a token, and no call leaves more than a full bucket. -/
theorem evalForever_pays {found : Option Bucket} {now : ℚ} (one : 1 ≤ capacity)
    (rate_pos : 0 < rate) (fits : Fits capacity found now) :
    left capacity rate (evalForever capacity rate found now).2 now +
        price (evalForever capacity rate found now).1 ≤
      min capacity (left capacity rate found now) := by
  have call := luaScript_call one rate_pos fits
  unfold evalForever
  generalize luaScript capacity rate now found = written at call ⊢
  cases call with
  | full => simp [left, price]
  | earned bucket amount whole worth =>
    have most := min_le_left capacity (bucket.tokens + amount)
    have sum := min_le_right capacity (bucket.tokens + amount)
    simp only [left, price, if_true, sub_self, mul_zero]
    exact le_min (by linarith) (by linarith)
  | saved bucket has early =>
    have room := (fits bucket rfl).room
    simp only [left, price, if_true]
    exact le_min (by linarith) (by linarith)
  | refused bucket early =>
    have room := (fits bucket rfl).room
    simp only [left, price, Bool.false_eq_true, if_false, add_zero]
    exact le_min (by linarith) le_rfl

theorem evalForever_bounded (one : 1 ≤ capacity) (rate_pos : 0 < rate) :
    Bounded (evalForever capacity rate) capacity rate (Fits capacity) (left capacity rate) where
  capacity_nonneg := zero_le_one.trans one
  rate_nonneg := rate_pos.le
  nonneg := left_nonneg one rate_pos
  keeps := evalForever_fits one rate_pos
  fills := fun _ le => left_fills _ rate_pos le
  pays := fun fits le => evalForever_pays one rate_pos (fits.later le)

/-! ## The time to live -/

theorem ttl_covers (capacity : ℚ) (rate_pos : 0 < rate) :
    2 * capacity ≤ rate * ttl capacity rate := by
  have ceil := Int.le_ceil (capacity / rate)
  calc 2 * capacity = rate * (capacity / rate * 2) := by field_simp
    _ ≤ rate * ttl capacity rate := by
      apply mul_le_mul_of_nonneg_left _ rate_pos.le
      exact mul_le_mul_of_nonneg_right ceil zero_le_two

/-- A bucket left alone for its time to live has filled up: the script finds the
same in it as in none. -/
theorem refill_expired {bucket : Bucket} {now : ℚ} (one : 1 ≤ capacity) (rate_pos : 0 < rate)
    (fits : bucket.Fits capacity now) (old : bucket.lastRefill + ttl capacity rate ≤ now) :
    refill capacity rate now (some bucket) = refill capacity rate now none := by
  obtain ⟨nonneg, _, past⟩ := fits
  obtain ⟨_, _, short⟩ := refillAmount_bounds rate_pos past
  have worth : rate * ttl capacity rate ≤ rate * (now - bucket.lastRefill) :=
    mul_le_mul_of_nonneg_left (by linarith) rate_pos.le
  have covers := ttl_covers capacity rate_pos
  have amount : capacity ≤ refillAmount rate now bucket := by linarith
  have earned : refillAmount rate now bucket > 0 := by
    have pos : (0 : ℚ) < refillAmount rate now bucket := by linarith
    exact_mod_cast pos
  rw [refill_earned earned, min_eq_left (by linarith)]
  rfl

/-- A key of the run: its bucket, and a deadline that leaves time to fill up. -/
structure KeyFits (capacity rate : ℚ) (key : Option Key) (t : ℚ) : Prop where
  fits : Fits capacity (key.map Key.bucket) t
  deadline : ∀ k, key = some k → k.bucket.lastRefill + ttl capacity rate ≤ k.expires

/-- The script cannot tell an expired key from a kept one. -/
theorem luaScript_hmget {key : Option Key} {now : ℚ} (one : 1 ≤ capacity) (rate_pos : 0 < rate)
    (fits : KeyFits capacity rate key now) :
    luaScript capacity rate now (Key.hmget key now) =
      luaScript capacity rate now (key.map Key.bucket) := by
  cases key with
  | none => rfl
  | some key =>
    simp only [Key.hmget, Option.bind_some, Option.map_some]
    split
    · rfl
    · rename_i expired
      have old := (fits.deadline key rfl).trans (not_lt.mp expired)
      simp only [luaScript, refill_expired one rate_pos (fits.fits key.bucket rfl) old]

theorem eval_agrees {key : Option Key} {t now : ℚ} (one : 1 ≤ capacity) (rate_pos : 0 < rate)
    (fits : KeyFits capacity rate key t) (le : t ≤ now) :
    (eval capacity rate key now).1 =
      (evalForever capacity rate (key.map Key.bucket) now).1 ∧
    (eval capacity rate key now).2.map Key.bucket =
      (evalForever capacity rate (key.map Key.bucket) now).2 ∧
    KeyFits capacity rate (eval capacity rate key now).2 now := by
  have fits' : KeyFits capacity rate key now := { fits with fits := fits.fits.later le }
  have kept := evalForever_fits one rate_pos fits.fits le
  have call := luaScript_call one rate_pos fits'.fits
  unfold eval
  unfold evalForever at kept ⊢
  rw [luaScript_hmget one rate_pos fits']
  generalize luaScript capacity rate now (key.map Key.bucket) = written at call kept ⊢
  cases written with
  | none => exact ⟨rfl, rfl, fits'⟩
  | some bucket =>
    refine ⟨rfl, rfl, kept, ?_⟩
    intro k eq
    cases eq
    exact add_le_add_left (call.fits one fits'.fits).past _

/-- The limiter keeps its bound. The stored tokens stay below the capacity, any
stretch of time allows at most a full bucket and what flows in, and letting the
key expire changes no answer. -/
theorem rate_limited (one : 1 ≤ capacity) (rate_pos : 0 < rate) {nows : List ℚ}
    (rising : nows.IsChain (· ≤ ·)) :
    (∀ key, after (eval capacity rate) none nows = some key →
      0 ≤ key.bucket.tokens ∧ key.bucket.tokens ≤ capacity - 1) ∧
    (∀ a b, a ≤ b → (allowed a b nows (answers (eval capacity rate) none nows) : ℚ) ≤
      capacity + rate * (b - a)) ∧
    answers (eval capacity rate) none nows = answers (evalForever capacity rate) none nows := by
  obtain ⟨t, start⟩ := exists_from rising
  have empty : Fits capacity none t := fun _ some => nomatch some
  have unset : KeyFits capacity rate none t := ⟨empty, fun _ some => nomatch some⟩
  have same : answers (eval capacity rate) none nows =
      answers (evalForever capacity rate) none nows := by
    apply answers_eq (R := fun key found t =>
      key.map Key.bucket = found ∧ KeyFits capacity rate key t) _ ⟨rfl, unset⟩ start
    rintro key _ t now ⟨rfl, fits⟩ le
    exact eval_agrees one rate_pos fits le
  refine ⟨?_, ?_, same⟩
  · intro key stored
    have keeps {key : Option Key} {t now : ℚ} (fits : KeyFits capacity rate key t) (le : t ≤ now) :
        KeyFits capacity rate (eval capacity rate key now).2 now :=
      (eval_agrees one rate_pos fits le).2.2
    obtain ⟨last, fits⟩ := after_invariant keeps unset start
    have fit := fits.fits key.bucket (by rw [stored]; rfl)
    exact ⟨fit.nonneg, fit.room⟩
  · intro a b ab
    rw [same]
    exact (evalForever_bounded one rate_pos).allowed_le empty start ab

/-- Two tokens and half a token a second: three calls pass in two seconds, and no
fourth can. -/
theorem rate_limited_two_seconds :
    (allowed 0 2 [0, 0, 0, 2] (answers (eval 2 (1 / 2)) none [0, 0, 0, 2]) : ℚ) ≤
      2 + 1 / 2 * (2 - 0) := by
  have one : (1 : ℚ) ≤ 2 := by norm_num
  have rate_pos : (0 : ℚ) < 1 / 2 := by norm_num
  have rising : ([0, 0, 0, 2] : List ℚ).IsChain (· ≤ ·) := by simp
  exact (rate_limited one rate_pos rising).2.1 0 2 (by norm_num)

end
end TorusProxy.Node
