/-
What surrounds a circuit breaker: two clocks that it reads and listeners that it notifies. Nothing
is assumed of them. Clocks may go backwards, and a listener may change the surroundings or panic.
-/
import CircuitBreaker.Kind
import CircuitBreaker.Time.Instant
import CircuitBreaker.Time.Timestamp

namespace CircuitBreaker

/-- Surroundings whose own state is of type `σ`. -/
structure World (σ : Type) where
  /-- Reads the monotonic clock. -/
  now : σ → Instant × σ
  /-- Reads the wall clock. -/
  wall : σ → Timestamp × σ
  /-- Runs the listener for a kind of state, if there is one, and tells the text of its panic, if
  it panics. -/
  notify : Kind → σ → Option String × σ

end CircuitBreaker
