/-
The calls on a circuit breaker: admission of an operation, recording of its outcome, queries,
snapshots, and opening and closing by hand. Each call is one step that no other interrupts; an
attempt is an admission and a recording with the operation between them, during which other calls
may be made.
-/
import CircuitBreaker.AttemptError
import CircuitBreaker.Call
import CircuitBreaker.Snapshot

namespace CircuitBreaker

/-- A circuit breaker in its surroundings. -/
structure Circuit (σ : Type) where
  settings : Settings
  world : World σ

namespace Circuit

variable {ε σ α : Type} (c : Circuit σ)

/-! ## Transitions -/

/-- Moves to a state, logs that, and runs the listener. -/
def transition (next : State) : Call ε σ Unit := do
  let source := (← Call.memory).state.kind
  Call.update (·.install next)
  let failures := (← Call.memory).failures
  Call.note (.logged (.ofTransition source next.kind failures))
  Call.notify c.world next.kind

/-- Moves to a state if there is one to move to. -/
def transition? : Option State → Call ε σ Unit
  | some next => c.transition next
  | none => pure ()

/-- Turns an open circuit half-open once its cooldown has passed. The clock is read in every
state. -/
def refresh : Call ε σ Unit := do
  let now ← Call.read c.world.now
  c.transition? ((← Call.memory).state.refresh now c.settings.cooldown)

/-! ## Attempts -/

/-- The answer to an attempt in the state as it is: nothing is returned if the operation may run, and
a rejection if it may not. What is left of the cooldown is found by another reading of the clock. An
admitted operation makes the failure observed last be forgotten. -/
def decision : Call ε σ (Option (Rejection ε)) := do
  if (← Call.memory).state.admits then
    Call.update ({ · with lastFailure := none })
    return none
  else
    let now ← Call.read c.world.now
    let memory ← Call.memory
    let remaining := (memory.state.remaining now c.settings.cooldown).getD .zero
    Call.note (.logged (.rejecting remaining))
    return some ⟨c.settings.name, memory.lastFailure, remaining⟩

/-- Admission: a refresh, and then the answer. -/
def admission : Call ε σ (Option (Rejection ε)) := do
  c.refresh
  c.decision

/-- Recording of a success. -/
def recordSuccess : Call ε σ Unit := do
  c.transition? (← Call.memory).state.onSuccess

/-- Recording of a failure, which is remembered in every state. -/
def recordFailure (failure : ε) : Call ε σ Unit := do
  Call.update ({ · with lastFailure := some failure })
  let now ← Call.read c.world.now
  let wall ← Call.read c.world.wall
  let memory ← Call.memory
  let (failures, next) := memory.state.onFailure memory.failures c.settings.threshold now wall
  Call.update ({ · with failures := failures })
  c.transition? next

/-- Recording of the outcome of an admitted operation, which is also the result of the attempt. -/
def record (outcome : Except ε α) : Call ε σ (Except (AttemptError ε) α) := do
  if !(← Call.memory).state.admits then
    Call.note (.logged .lateOutcome)
  match outcome with
  | .ok a =>
    c.recordSuccess
    return .ok a
  | .error failure =>
    c.recordFailure failure
    return .error (.failed failure)

/-! ## Queries and manual control -/

/-- The kind of the state, after a refresh. -/
def kind : Call ε σ Kind := do
  c.refresh
  return (← Call.memory).state.kind

/-- Opens the circuit by hand; the cooldown starts again. -/
def forceOpen : Call ε σ Unit := do
  let now ← Call.read c.world.now
  let wall ← Call.read c.world.wall
  c.transition (.opened now wall)

/-- Closes the circuit by hand. -/
def forceClose : Call ε σ Unit :=
  c.transition .closed

/-- What the circuit breaker is like in the state as it is. -/
def view : Call ε σ Snapshot := do
  let memory ← Call.memory
  let now ← Call.read c.world.now
  let remaining := memory.state.remaining now c.settings.cooldown
  let wall ← Call.read c.world.wall
  return {
    name := c.settings.name
    kind := memory.state.kind
    failures := memory.failures
    threshold := c.settings.threshold
    cooldownMillis := c.settings.cooldown.millis64
    openedAt := memory.state.openedAt
    remainingMillis := remaining.map (·.millis64)
    hasLastFailure := memory.lastFailure.isSome
    capturedAt := wall }

/-- What the circuit breaker is like, after a refresh. -/
def snapshot : Call ε σ Snapshot := do
  c.refresh
  c.view

/-- Whether the count of failures has reached the threshold. This does not refresh the state. -/
def thresholdReached (memory : Memory ε) : Bool := c.settings.threshold ≤ memory.failures

end Circuit

end CircuitBreaker
