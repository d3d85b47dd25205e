/-
Errors of guarded calls: a fault of the operation itself, or a rejection by an open circuit breaker.
-/
import CircuitBreaker.Text.Outline
import CircuitBreaker.Text.Quoted
import CircuitBreaker.Time.Duration

namespace CircuitBreaker

/-! ## Faults -/

/-- A fault of an operation: its message, and the messages of its causes, nearest first. -/
structure Fault where
  message : String
  causes : List String
deriving DecidableEq, Repr

namespace Fault

/-- The messages of the fault and its causes. -/
def chain (fault : Fault) : List String := fault.message :: fault.causes

/-- The fault as a description for programmers: its message alone. -/
def outline (fault : Fault) : Outline := .atom (Text.quoted fault.message)

end Fault

/-! ## Rejections and errors -/

/-- What a caller learns from an open circuit breaker that does not run an operation. -/
structure Rejection (ε : Type) where
  name : Option String
  lastFailure : Option ε
  remaining : Duration
deriving DecidableEq

/-- The text of a rejection, with the whole milliseconds after which to try again. -/
def Rejection.message {ε : Type} (rejection : Rejection ε) : String :=
  let name := match rejection.name with
    | none => ""
    | some name => " '" ++ name ++ "'"
  "Circuit breaker" ++ name ++ " open, attempt aborted (retry in " ++
    Text.ofNat rejection.remaining.millis ++ "ms)"

/-- Why a guarded call gives no value: its operation failed, or was not run. -/
inductive AttemptError (ε : Type)
  | failed (failure : ε)
  | rejected (rejection : Rejection ε)
deriving DecidableEq

namespace AttemptError

variable {ε : Type}

/-- Whether the operation was not run. -/
def isRejected : AttemptError ε → Bool
  | failed _ => false
  | rejected _ => true

/-- Whether the operation was run. -/
def isFailed : AttemptError ε → Bool
  | failed _ => true
  | rejected _ => false

/-- The failure of the operation, if it was run. -/
def failure? : AttemptError ε → Option ε
  | failed e => some e
  | rejected _ => none

/-- The failure that the error tells of, be it this operation's or an earlier one's. -/
def lastFailure : AttemptError ε → Option ε
  | failed e => some e
  | rejected r => r.lastFailure

/-- The text of the error: the fault's own, or that of the rejection. -/
def message : AttemptError Fault → String
  | failed fault => fault.message
  | rejected r => r.message

/-- The messages of what caused the error, nearest first. A fault stands for itself, so its causes
are the error's; a rejection was caused by the last failure. -/
def causes : AttemptError Fault → List String
  | failed fault => fault.causes
  | rejected r => (r.lastFailure.map (·.chain)).getD []

/-- The error as a description for programmers. -/
def outline : AttemptError Fault → Outline
  | failed fault => .tuple "Failed" [fault.outline]
  | rejected r => .tuple "Open" [.record "CircuitOpenError" [
      ("name", .optional (fun name => .atom (Text.quoted name)) r.name),
      ("last_failure", .optional (·.outline) r.lastFailure),
      ("remaining", .atom r.remaining.text)]]

end AttemptError

end CircuitBreaker
