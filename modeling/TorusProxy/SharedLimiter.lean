import TorusProxy.RateLimiter

/-! The token bucket where its callers do not wait for each other: Redis executes
each call at a time of its own, later than the one the call was stamped with. -/
namespace TorusProxy.Node

section
variable (capacity refillRatePerSecond : ℚ)

/-- One execution at `clock` of a call stamped `now`. `EXPIRE` counts from the
execution. -/
def execute (key : Option Key) (clock now : ℚ) : Bool × Option Key :=
  match luaScript capacity refillRatePerSecond now (Key.hmget key clock) with
  | some bucket =>
    (true, some { bucket := bucket, expires := clock + ttl capacity refillRatePerSecond })
  | none => (false, key)

end

/-- A call that does not wait is a call of the script alone. -/
theorem execute_self (capacity rate : ℚ) (key : Option Key) (now : ℚ) :
    execute capacity rate key now now = eval capacity rate key now := rfl

section
variable {capacity rate : ℚ}

/-! ## One execution -/

/-- What an allowed call does to a bucket it finds, whenever it was stamped: it
takes a token there was, or earns some first and moves the refill up to its stamp. -/
inductive Taken (capacity rate now : ℚ) (bucket : Bucket) : Bucket → Prop
  | saved (one : 1 ≤ bucket.tokens) (early : rate * (now - bucket.lastRefill) < 1) :
      Taken capacity rate now bucket { bucket with tokens := bucket.tokens - 1 }
  | earned (tokens : ℚ) (one : 1 ≤ tokens) (room : tokens ≤ capacity)
      (worth : tokens ≤ bucket.tokens + rate * (now - bucket.lastRefill))
      (later : bucket.lastRefill < now) :
      Taken capacity rate now bucket { tokens := tokens - 1, lastRefill := now }

theorem refillAmount_nonneg (bucket : Bucket) (now : ℚ) (rate_pos : 0 < rate) :
    0 ≤ refillAmount rate now bucket :=
  Int.floor_nonneg.mpr (mul_nonneg (le_max_left _ _) rate_pos.le)

/-- A stamp from before the last refill earns nothing. -/
theorem refillAmount_stale (rate : ℚ) {bucket : Bucket} {now : ℚ}
    (stale : now ≤ bucket.lastRefill) : refillAmount rate now bucket = 0 := by
  simp [refillAmount, max_eq_left (sub_nonpos.mpr stale)]

theorem luaScript_taken {bucket after : Bucket} {now : ℚ} (one : 1 ≤ capacity)
    (rate_pos : 0 < rate) (nonneg : 0 ≤ bucket.tokens) (room : bucket.tokens ≤ capacity)
    (allowed : luaScript capacity rate now (some bucket) = some after) :
    Taken capacity rate now bucket after := by
  simp only [luaScript] at allowed
  have whole := refillAmount_nonneg bucket now rate_pos
  by_cases earned : refillAmount rate now bucket > 0
  · have later : bucket.lastRefill < now := by
      by_contra stale
      have zero := refillAmount_stale rate (not_lt.mp stale)
      omega
    have amount : (1 : ℚ) ≤ refillAmount rate now bucket := by exact_mod_cast earned
    obtain ⟨-, worth, -⟩ := refillAmount_bounds rate_pos later.le
    have sum := min_le_right capacity (bucket.tokens + refillAmount rate now bucket)
    rw [refill_earned earned, if_pos (le_min one (by linarith))] at allowed
    cases allowed
    exact .earned _ (le_min one (by linarith)) (min_le_left _ _) (by linarith) later
  · have zero : refillAmount rate now bucket = 0 := by omega
    rw [refill_early zero room] at allowed
    split at allowed <;> cases allowed
    rename_i has
    refine .saved has ?_
    rcases le_total now bucket.lastRefill with stale | later
    · have spent := mul_nonpos_of_nonneg_of_nonpos rate_pos.le (sub_nonpos.mpr stale)
      linarith
    · obtain ⟨-, -, short⟩ := refillAmount_bounds rate_pos later
      simpa [zero] using short

/-! ## The budget -/

/-- A stored key at this time of the server. -/
structure Key.Sound (capacity rate clock : ℚ) (key : Key) : Prop where
  nonneg : 0 ≤ key.bucket.tokens
  room : key.bucket.tokens ≤ capacity - 1
  past : key.bucket.lastRefill ≤ clock
  deadline : key.bucket.lastRefill + ttl capacity rate ≤ key.expires

/-- The calls allowed since `base`, and the key they have left. The first of them
refills the bucket or finds it refilled no earlier than `base`; from there on each
is paid for. -/
inductive Funded (capacity rate base clock : ℚ) : ℕ → Option Key → Prop
  | unset : Funded capacity rate base clock 0 none
  | idle (key : Key) (sound : key.Sound capacity rate clock) :
      Funded capacity rate base clock 0 (some key)
  | paid (granted : ℕ) (key : Key) (sound : key.Sound capacity rate clock)
      (since : base ≤ key.bucket.lastRefill)
      (budget : granted + key.bucket.tokens ≤ capacity + rate * (key.bucket.lastRefill - base)) :
      Funded capacity rate base clock granted (some key)

namespace Funded
variable {base clock : ℚ} {granted : ℕ} {key : Option Key}

theorem later {clock' : ℚ} (h : Funded capacity rate base clock granted key)
    (le : clock ≤ clock') : Funded capacity rate base clock' granted key := by
  cases h with
  | unset => exact .unset
  | idle key sound => exact .idle key { sound with past := sound.past.trans le }
  | paid _ key sound since budget =>
    exact .paid granted key { sound with past := sound.past.trans le } since budget

theorem granted_le (h : Funded capacity rate base clock granted key) (one : 1 ≤ capacity)
    (rate_pos : 0 < rate) (le : base ≤ clock) : granted ≤ capacity + rate * (clock - base) := by
  have inflow := mul_nonneg rate_pos.le (sub_nonneg.mpr le)
  cases h with
  | unset | idle => simp only [Nat.cast_zero]; linarith
  | paid _ key sound since budget =>
    have filled : rate * (key.bucket.lastRefill - base) ≤ rate * (clock - base) :=
      mul_le_mul_of_nonneg_left (by linarith [sound.past]) rate_pos.le
    linarith [sound.nonneg]

/-- An execution that finds no key, or an expired one, fills the bucket. What has
been allowed is paid for by then: the key has lived longer than the call is late. -/
theorem refilled (h : Funded capacity rate base clock granted key) (one : 1 ≤ capacity)
    (rate_pos : 0 < rate) {now : ℚ} (since : base ≤ now) (past : now ≤ clock)
    (prompt : rate * (clock - now) ≤ capacity)
    (expired : ∀ k, key = some k → k.expires ≤ clock) :
    Funded capacity rate base clock (granted + 1)
      (some ⟨⟨capacity - 1, now⟩, clock + ttl capacity rate⟩) := by
  have inflow := mul_nonneg rate_pos.le (sub_nonneg.mpr since)
  have covered : (granted : ℚ) ≤ rate * (now - base) := by
    cases h with
    | unset | idle => simpa using inflow
    | paid _ key sound _ budget =>
      have old := sound.deadline.trans (expired key rfl)
      have lived : rate * ttl capacity rate ≤ rate * (clock - key.bucket.lastRefill) :=
        mul_le_mul_of_nonneg_left (by linarith) rate_pos.le
      have covers := ttl_covers capacity rate_pos
      have nonneg := sound.nonneg
      have split : rate * (now - base) = rate * (key.bucket.lastRefill - base) +
          rate * (clock - key.bucket.lastRefill) - rate * (clock - now) := by ring
      linarith
  refine .paid _ _ ⟨sub_nonneg.mpr one, le_rfl, past, ?_⟩ since ?_
  · exact add_le_add_left past _
  · push_cast
    linarith

/-- An execution that finds a bucket takes a token from it. -/
theorem taken {key : Key} (h : Funded capacity rate base clock granted (some key))
    (one : 1 ≤ capacity) (rate_pos : 0 < rate) {now : ℚ} (since : base ≤ now) (past : now ≤ clock)
    (early : key.bucket.lastRefill < base → 1 ≤ rate * (now - base)) {after : Bucket}
    (allowed : luaScript capacity rate now (some key.bucket) = some after) :
    Funded capacity rate base clock (granted + 1)
      (some ⟨after, clock + ttl capacity rate⟩) := by
  have sound : key.Sound capacity rate clock := by
    cases h with
    | idle _ sound | paid _ _ sound => exact sound
  have kept := add_le_add_left sound.past (ttl capacity rate)
  cases luaScript_taken one rate_pos sound.nonneg (by linarith [sound.room]) allowed with
  | saved has short =>
    have since' : base ≤ key.bucket.lastRefill := by
      by_contra before
      have earns := early (not_le.mp before)
      have sooner : rate * (now - base) ≤ rate * (now - key.bucket.lastRefill) :=
        mul_le_mul_of_nonneg_left (by linarith [not_le.mp before]) rate_pos.le
      linarith
    have inflow := mul_nonneg rate_pos.le (sub_nonneg.mpr since')
    have room := sound.room
    refine .paid _ _ ⟨sub_nonneg.mpr has, ?_, sound.past, kept⟩ since' ?_
    · simp only
      linarith
    · cases h with
      | idle => push_cast; linarith
      | paid _ _ _ _ budget => push_cast; linarith
  | earned tokens has room worth later =>
    have inflow := mul_nonneg rate_pos.le (sub_nonneg.mpr since)
    refine .paid _ _ ⟨sub_nonneg.mpr has, ?_, past, ?_⟩ since ?_
    · simp only
      linarith
    · exact add_le_add_left past _
    · cases h with
      | idle => push_cast; linarith
      | paid _ _ _ _ budget =>
        have flows : rate * (key.bucket.lastRefill - base) + rate * (now - key.bucket.lastRefill) =
            rate * (now - base) := by ring
        push_cast
        linarith

/-- What one execution keeps. A call may come late, but by no more than it takes to
fill the bucket. -/
theorem execute (h : Funded capacity rate base clock granted key) (one : 1 ≤ capacity)
    (rate_pos : 0 < rate) {now : ℚ} (since : base ≤ now) (past : now ≤ clock)
    (prompt : rate * (clock - now) ≤ capacity)
    (early : ∀ k, key = some k → k.bucket.lastRefill < base → 1 ≤ rate * (now - base)) :
    Funded capacity rate base clock
      (granted + if (Node.execute capacity rate key clock now).1 then 1 else 0)
      (Node.execute capacity rate key clock now).2 := by
  have fresh (expired : ∀ k, key = some k → k.expires ≤ clock)
      (none_found : Key.hmget key clock = none) :
      Funded capacity rate base clock
        (granted + if (Node.execute capacity rate key clock now).1 then 1 else 0)
        (Node.execute capacity rate key clock now).2 := by
    have full : luaScript capacity rate now none = some ⟨capacity - 1, now⟩ := by
      simp [luaScript, refill, one]
    simp only [Node.execute, none_found, full, if_true]
    exact h.refilled one rate_pos since past prompt expired
  cases key with
  | none => exact fresh (by rintro k ⟨⟩) rfl
  | some key =>
    by_cases live : clock < key.expires
    · have found : Key.hmget (some key) clock = some key.bucket := if_pos live
      simp only [Node.execute, found]
      cases allowed : luaScript capacity rate now (some key.bucket) with
      | none => exact h
      | some after => exact h.taken one rate_pos since past (early key rfl) allowed
    · apply fresh
      · rintro k ⟨⟩
        exact not_lt.mp live
      · exact if_neg live

/-- Where every refill was made since `base`, the next is too. -/
theorem execute_since (h : Funded capacity rate base clock granted key) (one : 1 ≤ capacity)
    (rate_pos : 0 < rate) {now : ℚ} (since : base ≤ now) (past : now ≤ clock)
    (prompt : rate * (clock - now) ≤ capacity)
    (refills : ∀ k, key = some k → base ≤ k.bucket.lastRefill) :
    ∀ k, (Node.execute capacity rate key clock now).2 = some k → base ≤ k.bucket.lastRefill := by
  have after := h.execute one rate_pos since past prompt
    fun k eq before => absurd (refills k eq) (not_le.mpr before)
  intro k stored
  rw [stored] at after
  unfold Node.execute at after stored
  split at stored <;> rename_i found
  · rw [found] at after
    cases after with
    | paid _ _ _ since => exact since
  · exact refills k stored

end Funded
end
end TorusProxy.Node
