/-
The configuration of a circuit breaker as it is stored and sent: numbers of fixed width, in or out
of the range that a circuit breaker takes.
-/
import CircuitBreaker.Time.Duration

namespace CircuitBreaker

/-- A configuration, valid or not. -/
structure Config where
  name : Option String
  threshold : UInt32
  cooldownMillis : UInt64
deriving DecidableEq, Repr

/-- The cooldown as a length of time. -/
def Config.cooldown (config : Config) : Duration := .ofMillis config.cooldownMillis.toNat

end CircuitBreaker
