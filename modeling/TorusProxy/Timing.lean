import Mathlib.Data.Int.GCD
import Mathlib.Logic.Relation
import TorusProxy.Running
import TorusProxy.Validation

/-! The health timings as the prober gets them. `Validate` compares the
milliseconds; the products in nanoseconds wrap at 64 bits. -/
namespace TorusProxy

theorem milliseconds_eq (ms : Int) :
    milliseconds ms = if 15625 * ms % 2 ^ 58 < 2 ^ 57 then 64 * (15625 * ms % 2 ^ 58)
      else 64 * (15625 * ms % 2 ^ 58) - 2 ^ 64 := by
  have product : ms * 1000000 = 64 * (15625 * ms) := by omega
  have wrap : ((2 ^ 64 : Nat) : Int) = 64 * 2 ^ 58 := by decide
  have half : (((2 ^ 64 : Nat) : Int) + 1) / 2 = 64 * 2 ^ 57 := by decide
  unfold milliseconds
  rw [Int.bmod_def, half, product, wrap, Int.mul_emod_mul_of_pos _ _ (by decide)]
  generalize 15625 * ms % 2 ^ 58 = t
  split <;> split <;> omega

/-- A product is zero only where nothing is left of it after the wrap. -/
theorem residue_eq_zero (ms : Int) : 15625 * ms % 2 ^ 58 = 0 ↔ (2 ^ 58 : Int) ∣ ms := by
  rw [← Int.dvd_iff_emod_eq_zero]
  constructor
  · intro divides
    exact Int.dvd_of_dvd_mul_right_of_gcd_one divides (by decide)
  · intro divides
    exact Int.dvd_mul_of_dvd_right divides

theorem timings_ordered (h : HealthCheckConfig) :
    (0 < h.timeout ∧ h.timeout ≤ h.interval) ↔
      ¬ (2 ^ 58 : Int) ∣ h.timeoutMs ∧
      15625 * h.timeoutMs % 2 ^ 58 ≤ 15625 * h.intervalMs % 2 ^ 58 ∧
      15625 * h.intervalMs % 2 ^ 58 < 2 ^ 57 := by
  have timeout := milliseconds_eq h.timeoutMs
  have interval := milliseconds_eq h.intervalMs
  have positive : (0 : Int) < 2 ^ 58 := by decide
  have residue (ms : Int) : 0 ≤ 15625 * ms % 2 ^ 58 ∧ 15625 * ms % 2 ^ 58 < 2 ^ 58 :=
    ⟨Int.emod_nonneg _ (Int.ne_of_gt positive), Int.emod_lt_of_pos _ positive⟩
  have timeoutRange := residue h.timeoutMs
  have intervalRange := residue h.intervalMs
  unfold HealthCheckConfig.timeout HealthCheckConfig.interval
  rw [← residue_eq_zero]
  generalize 15625 * h.timeoutMs % 2 ^ 58 = t at *
  generalize 15625 * h.intervalMs % 2 ^ 58 = i at *
  split at timeout <;> split at interval <;> omega

/-! ## The prober -/

/-- One step of the goroutine, whatever the others have done meanwhile. -/
def ProberPC.Next (p : Prober) (pc pc' : ProberPC) : Prop :=
  ∃ sh c sh' new, prober p sh c pc = some (sh', pc', new)

/-- Past `time.NewTicker`. -/
def ProberPC.ticking : ProberPC → Bool
  | .select | .check | .setHealthy _ | .setGauge _ | .log => true
  | _ => false

/-- `time.NewTicker` panics on such an interval, and what comes after a panic
leads to its exit. -/
theorem prober_not_ticking {p : Prober} (stuck : p.interval ≤ 0) {pc pc' : ProberPC}
    (h : ProberPC.Next p pc pc') (before : pc.ticking = false) : pc'.ticking = false := by
  obtain ⟨sh, c, sh', new, fires⟩ := h
  cases pc with
  | newTicker =>
    simp only [prober, if_neg (Int.not_lt.mpr stuck)] at fires
    cases fires
    rfl
  | recovered | backoff | register =>
    simp only [prober] at fires
    repeat' split at fires
    all_goals cases fires
    all_goals rfl
  | restart =>
    simp only [prober] at fires
    split at fires <;> cases fires
    · rfl
    · split <;> rfl
  | doneWorker => cases fires; rfl
  | exited => cases fires
  | select | check | setHealthy | setGauge | log => cases before

theorem prober_never_ticks {p : Prober} (stuck : p.interval ≤ 0) {pc : ProberPC}
    (h : Relation.ReflTransGen (ProberPC.Next p) .newTicker pc) : pc.ticking = false := by
  induction h with
  | refl => rfl
  | tail _ step ih => exact prober_not_ticking stuck step ih

/-- What the prober needs of the timings. -/
structure HealthCheckConfig.Usable (h : HealthCheckConfig) : Prop where
  timeout : 0 < h.timeout
  interval : h.timeout ≤ h.interval
  ticks : ∀ rt backend sh c,
    prober ⟨rt, backend, h.interval⟩ sh c .newTicker = some (sh, .select, false)

/-- Which accepted timings can be used. Without an overflow they all can, and
where they cannot for the interval the goroutine never gets past
`time.NewTicker`, and no goroutine that replaces it. -/
theorem accepted_timings_usable_iff (env : Env) (c : Config) (valid : c.validate env = .ok ()) :
    (c.healthCheck.Usable ↔
      ¬ (2 ^ 58 : Int) ∣ c.healthCheck.timeoutMs ∧
      15625 * c.healthCheck.timeoutMs % 2 ^ 58 ≤ 15625 * c.healthCheck.intervalMs % 2 ^ 58 ∧
      15625 * c.healthCheck.intervalMs % 2 ^ 58 < 2 ^ 57) ∧
    (c.healthCheck.intervalMs ≤ 9223372036854 → c.healthCheck.Usable) ∧
    (c.healthCheck.interval ≤ 0 → ∀ rt backend pc,
      Relation.ReflTransGen (ProberPC.Next ⟨rt, backend, c.healthCheck.interval⟩) .newTicker pc →
        pc.ticking = false) := by
  have schema := (c.validate_ok env).mp valid
  have usable : c.healthCheck.Usable ↔
      0 < c.healthCheck.timeout ∧ c.healthCheck.timeout ≤ c.healthCheck.interval := by
    constructor
    · intro h
      exact ⟨h.timeout, h.interval⟩
    · rintro ⟨positive, ordered⟩
      refine ⟨positive, ordered, ?_⟩
      intro rt backend sh k
      rw [prober, if_pos (Int.lt_of_lt_of_le positive ordered)]
  rw [usable, timings_ordered]
  refine ⟨Iff.rfl, ?_, fun stuck rt backend pc => prober_never_ticks stuck⟩
  intro small
  obtain ⟨positive, ordered⟩ := schema.timing
  have interval : 15625 * c.healthCheck.intervalMs % 2 ^ 58 = 15625 * c.healthCheck.intervalMs :=
    Int.emod_eq_of_lt (by omega) (by omega)
  have timeout : 15625 * c.healthCheck.timeoutMs % 2 ^ 58 = 15625 * c.healthCheck.timeoutMs :=
    Int.emod_eq_of_lt (by omega) (by omega)
  rw [interval, timeout, ← residue_eq_zero, timeout]
  omega

/-- The sample's timings, a second and half of it. -/
theorem accepted_timings_usable_sample : sampleConfig.healthCheck.Usable :=
  (accepted_timings_usable_iff sampleEnv sampleConfig sampleConfig_valid).2.1 (by decide)

/-- The sample with an interval just past the range of the nanoseconds. -/
def longIntervalConfig : Config :=
  { sampleConfig with healthCheck := ⟨9223372036855, 1, "/health"⟩ }

/-- Such an interval is accepted, and negative for the prober. -/
theorem long_interval_unusable :
    ¬ ∀ (env : Env) (c : Config), -2 ^ 63 ≤ c.healthCheck.intervalMs →
      c.healthCheck.intervalMs < 2 ^ 63 → -2 ^ 63 ≤ c.healthCheck.timeoutMs →
      c.healthCheck.timeoutMs < 2 ^ 63 → c.validate env = .ok () → c.healthCheck.Usable := by
  intro always
  have valid : longIntervalConfig.validate sampleEnv = .ok () :=
    eq_ok_of_toOption (by decide)
  have usable := always sampleEnv longIntervalConfig (by decide) (by decide) (by decide) (by decide)
    valid
  have ticks := usable.ticks 0 0 sampleWorld.shared .go
  have panics : ¬ 0 < longIntervalConfig.healthCheck.interval := by decide
  rw [prober, if_neg panics] at ticks
  cases ticks

end TorusProxy
