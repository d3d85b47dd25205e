/-
Lengths of time in whole nanoseconds, and the short text that shows one: the largest unit that has
a whole part, and no more fraction digits than needed.
-/
import CircuitBreaker.Text.Digits

namespace CircuitBreaker

/-- A length of time, counted in nanoseconds. -/
structure Duration where
  nanos : Nat
deriving DecidableEq, Repr, Inhabited

namespace Duration

/-- No time at all. -/
def zero : Duration := ⟨0⟩

/-- Whole seconds and nanoseconds on top. -/
def ofParts (seconds nanos : Nat) : Duration := ⟨seconds * 1000000000 + nanos⟩

/-- Whole milliseconds. -/
def ofMillis (millis : Nat) : Duration := ⟨millis * 1000000⟩

/-- The shortest cooldown that a circuit breaker takes. -/
def millisecond : Duration := ofMillis 1

/-- The whole seconds. -/
def seconds (d : Duration) : Nat := d.nanos / 1000000000

/-- What is left after the whole seconds, in nanoseconds. -/
def subsecNanos (d : Duration) : Nat := d.nanos % 1000000000

/-- The whole milliseconds. -/
def millis (d : Duration) : Nat := d.nanos / 1000000

/-- The whole milliseconds as a 64-bit number; longer times give the largest one. -/
def millis64 (d : Duration) : UInt64 := UInt64.ofNat (min d.millis (UInt64.size - 1))

instance : LE Duration := ⟨fun a b => a.nanos ≤ b.nanos⟩

instance : LT Duration := ⟨fun a b => a.nanos < b.nanos⟩

instance (a b : Duration) : Decidable (a ≤ b) := inferInstanceAs (Decidable (a.nanos ≤ b.nanos))

instance (a b : Duration) : Decidable (a < b) := inferInstanceAs (Decidable (a.nanos < b.nanos))

instance : Add Duration := ⟨fun a b => ⟨a.nanos + b.nanos⟩⟩

/-- What is left of `a` after `b`; nothing if `b` is longer. -/
instance : Sub Duration := ⟨fun a b => ⟨a.nanos - b.nanos⟩⟩

instance : Min Duration := ⟨fun a b => ⟨min a.nanos b.nanos⟩⟩

theorem le_def {a b : Duration} : a ≤ b ↔ a.nanos ≤ b.nanos := Iff.rfl

theorem lt_def {a b : Duration} : a < b ↔ a.nanos < b.nanos := Iff.rfl

@[simp] theorem nanos_add (a b : Duration) : (a + b).nanos = a.nanos + b.nanos := rfl

@[simp] theorem nanos_sub (a b : Duration) : (a - b).nanos = a.nanos - b.nanos := rfl

@[simp] theorem nanos_min (a b : Duration) : (min a b).nanos = min a.nanos b.nanos := rfl

@[simp] theorem nanos_ofMillis (n : Nat) : (ofMillis n).nanos = n * 1000000 := rfl

@[simp] theorem millis_ofMillis (n : Nat) : (ofMillis n).millis = n := by
  simp [millis, ofMillis]

/-! ## The text of a duration -/

/-- `nanos` counted in a unit of `10 ^ places` nanoseconds: the whole part, and a fraction without
trailing zeros if there is one. -/
def inUnit (nanos places : Nat) : List Char :=
  let fraction := Text.dropTrailingZeros (Text.fixedDigits places (nanos % Nat.pow 10 places))
  Text.decimalDigits (nanos / Nat.pow 10 places) ++ if fraction = [] then [] else '.' :: fraction

/-- The duration in seconds, milliseconds, microseconds or nanoseconds, in the first of these
units that it fills. -/
def text (d : Duration) : String :=
  if Nat.pow 10 9 ≤ d.nanos then String.ofList (inUnit d.nanos 9) ++ "s"
  else if Nat.pow 10 6 ≤ d.nanos then String.ofList (inUnit d.nanos 6) ++ "ms"
  else if Nat.pow 10 3 ≤ d.nanos then String.ofList (inUnit d.nanos 3) ++ "µs"
  else String.ofList (inUnit d.nanos 0) ++ "ns"

end Duration

end CircuitBreaker
