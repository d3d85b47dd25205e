/-
What a circuit breaker logs: its transitions, the calls that it rejects, and outcomes that come too
late to count.
-/
import CircuitBreaker.Settings
import CircuitBreaker.State

namespace CircuitBreaker

/-- How much a log line matters. -/
inductive Level
  | warning
  | info
  | debug
deriving DecidableEq, Repr

/-- The name of the level. -/
def Level.name : Level → String
  | warning => "WARN"
  | info => "INFO"
  | debug => "DEBUG"

/-- A line of the log. -/
inductive LogEntry
  | opening (source : Kind) (failures : UInt32)
  | turningHalfOpen
  | closing (source : Kind)
  | rejecting (remaining : Duration)
  | lateOutcome
deriving DecidableEq, Repr

namespace LogEntry

/-- How much the line matters. -/
def level : LogEntry → Level
  | opening _ _ => .warning
  | turningHalfOpen => .info
  | closing _ => .info
  | rejecting _ => .debug
  | lateOutcome => .debug

/-- What happened, for the circuit breaker with these settings. -/
def message (settings : Settings) (entry : LogEntry) : String :=
  "Circuit breaker '" ++ settings.label ++ "' " ++ match entry with
    | opening source failures =>
      "opening from " ++ source.name ++ " (" ++ Text.ofNat failures.toNat ++ " consecutive failures)"
    | turningHalfOpen =>
      "transitioning to half-open after " ++ settings.cooldown.text ++ " cooldown"
    | closing source => "closing from " ++ source.name
    | rejecting remaining =>
      "open, rejecting attempt (" ++ remaining.text ++ " cooldown left)"
    | lateOutcome => "received an outcome after opening; state unchanged"

/-- The line for a transition between states of these kinds, with the count of failures after it. -/
def ofTransition (source target : Kind) (failures : UInt32) : LogEntry :=
  match target with
  | .opened => opening source failures
  | .halfOpen => turningHalfOpen
  | .closed => closing source

end LogEntry

end CircuitBreaker
