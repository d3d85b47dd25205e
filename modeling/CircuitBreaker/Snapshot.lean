/-
Snapshots: what a circuit breaker was like at one moment, in numbers of fixed width.
-/
import CircuitBreaker.Kind
import CircuitBreaker.Time.Timestamp

namespace CircuitBreaker

/-- What a circuit breaker was like at one moment. -/
structure Snapshot where
  name : Option String
  kind : Kind
  failures : UInt32
  threshold : UInt32
  cooldownMillis : UInt64
  openedAt : Option Timestamp
  remainingMillis : Option UInt64
  hasLastFailure : Bool
  capturedAt : Timestamp
deriving DecidableEq

/-- Whether calls were rejected. -/
def Snapshot.isRejecting (snapshot : Snapshot) : Bool := snapshot.kind.rejects

end CircuitBreaker
