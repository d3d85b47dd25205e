/-
The settings of a circuit breaker: what a configuration may violate, and settings that violate
nothing.
-/
import CircuitBreaker.Config
import CircuitBreaker.Text.Outline

namespace CircuitBreaker

/-! ## Violations -/

/-- Something that a circuit breaker does not take as a setting. -/
inductive Violation
  | thresholdTooLow (threshold : UInt32)
  | cooldownTooShort (cooldown : Duration)
deriving DecidableEq, Repr

namespace Violation

/-- The text that reports the violation. -/
def message : Violation → String
  | thresholdTooLow threshold =>
    "failure threshold should be greater than 0 (got " ++ Text.ofNat threshold.toNat ++ ")"
  | cooldownTooShort cooldown =>
    "cooldown should be at least 1ms (got " ++ cooldown.text ++ ")"

/-- The violation as a description for programmers. -/
def outline : Violation → Outline
  | thresholdTooLow threshold =>
    .record "ThresholdTooLow" [("threshold", .atom (Text.ofNat threshold.toNat))]
  | cooldownTooShort cooldown => .record "CooldownTooShort" [("cooldown", .atom cooldown.text)]

end Violation

/-- What is wrong with a threshold and a cooldown: the threshold has to be positive, and the
cooldown has to last a millisecond. -/
def violations (threshold : UInt32) (cooldown : Duration) : List Violation :=
  (if 0 < threshold then [] else [.thresholdTooLow threshold]) ++
    if Duration.millisecond ≤ cooldown then [] else [.cooldownTooShort cooldown]

theorem violations_eq_nil {threshold : UInt32} {cooldown : Duration} :
    violations threshold cooldown = [] ↔ 0 < threshold ∧ Duration.millisecond ≤ cooldown := by
  rw [violations]
  split <;> split <;> simp_all

/-- What is wrong with a configuration. -/
def Config.violations (config : Config) : List Violation :=
  CircuitBreaker.violations config.threshold config.cooldown

/-! ## Settings -/

/-- The settings of a circuit breaker, in the range that it takes. -/
structure Settings where
  name : Option String
  threshold : UInt32
  cooldown : Duration
  threshold_pos : 0 < threshold
  cooldown_ge : Duration.millisecond ≤ cooldown
deriving DecidableEq

/-- The name by which texts call the circuit breaker. -/
def Settings.label (settings : Settings) : String := settings.name.getD "<unnamed>"

/-! ## Errors of construction -/

/-- Why no circuit breaker can be built. -/
inductive BuildError
  | missingThreshold
  | missingCooldown
  | invalid (violations : List Violation)
deriving DecidableEq, Repr

namespace BuildError

/-- The violations that the error reports. -/
def violations : BuildError → List Violation
  | invalid violations => violations
  | _ => []

/-- The text that reports the error. -/
def message : BuildError → String
  | missingThreshold => "Failure threshold not specified. Call .threshold(n) before .build()"
  | missingCooldown =>
    "Cooldown not specified. Call .cooldown(duration) or .cooldown_ms(ms) before .build()"
  | invalid violations =>
    "Invalid circuit breaker configuration: " ++ "; ".intercalate (violations.map (·.message))

/-- The name of the error. -/
def label : BuildError → String
  | missingThreshold => "MissingThreshold"
  | missingCooldown => "MissingCooldown"
  | invalid _ => "InvalidConfig"

/-- The error as a description for programmers. -/
def outline (e : BuildError) : Outline :=
  match e with
  | invalid violations => .tuple e.label [.list (violations.map (·.outline))]
  | _ => .atom e.label

end BuildError

/-- Settings with these values, if they are in range. -/
def Settings.check (name : Option String) (threshold : UInt32) (cooldown : Duration) :
    Except BuildError Settings :=
  if h : 0 < threshold ∧ Duration.millisecond ≤ cooldown then
    .ok ⟨name, threshold, cooldown, h.1, h.2⟩
  else .error (.invalid (violations threshold cooldown))

end CircuitBreaker
