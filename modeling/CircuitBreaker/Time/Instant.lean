/-
Points of a monotonic clock, counted in nanoseconds from a fixed base, and the time between two of
them.
-/
import CircuitBreaker.Time.Duration

namespace CircuitBreaker

/-- A reading of a monotonic clock: so many nanoseconds after a fixed base. -/
structure Instant where
  nanos : Nat
deriving DecidableEq, Repr, Inhabited

namespace Instant

/-- Whole seconds and nanoseconds after the base. -/
def ofParts (seconds nanos : Nat) : Instant := ⟨seconds * 1000000000 + nanos⟩

/-- The time that has passed since `start`: none if the reading lies before it. -/
def since (now start : Instant) : Duration := ⟨now.nanos - start.nanos⟩

/-- The first point past those that a clock can show. -/
def limit : Instant := ofParts (Nat.pow 2 63) 0

/-- The point that lies `d` later, if a clock can show it. -/
def add? (start : Instant) (d : Duration) : Option Instant :=
  let later := start.nanos + d.nanos
  if later < limit.nanos then some ⟨later⟩ else none

@[simp] theorem nanos_since (now start : Instant) :
    (now.since start).nanos = now.nanos - start.nanos := rfl

end Instant

end CircuitBreaker
