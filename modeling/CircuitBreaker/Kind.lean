/-
The three kinds of states of a circuit breaker.
-/

namespace CircuitBreaker

/-- The kinds of states: calls pass, calls are rejected, calls pass on trial. -/
inductive Kind
  | closed
  | opened
  | halfOpen
deriving DecidableEq, Repr, Inhabited

namespace Kind

/-- All kinds. -/
def all : List Kind := [closed, opened, halfOpen]

/-- The name of the kind, as it stands in texts and in JSON. -/
def name : Kind → String
  | closed => "closed"
  | opened => "open"
  | halfOpen => "half_open"

/-- The kind as it stands in descriptions for programmers. -/
def label : Kind → String
  | closed => "Closed"
  | opened => "Open"
  | halfOpen => "HalfOpen"

/-- Whether calls are rejected. -/
def rejects (kind : Kind) : Bool := kind = opened

theorem rejects_iff {kind : Kind} : kind.rejects = true ↔ kind = .opened := by
  simp [rejects]

end Kind

end CircuitBreaker
