/-
The states of a circuit breaker and the rules that move it from one to another. Each rule is a
function of the state and of what it is told about time and failures, and gives the state to move
to, if any.
-/
import CircuitBreaker.Kind
import CircuitBreaker.Time.Instant
import CircuitBreaker.Time.Timestamp

namespace CircuitBreaker

/-- The state of a circuit breaker. An open one knows when it was opened, on both clocks: by the
first it finds out how long ago that was, the second is for people. -/
inductive State
  | closed
  | opened (entered : Instant) (wall : Timestamp)
  | halfOpen
deriving DecidableEq, Inhabited

namespace State

/-- The kind of the state. -/
def kind : State → Kind
  | closed => .closed
  | opened _ _ => .opened
  | halfOpen => .halfOpen

/-- Whether the state lets calls pass. -/
def admits (state : State) : Bool := !state.kind.rejects

/-- When an open state was entered, in universal time. -/
def openedAt : State → Option Timestamp
  | opened _ wall => some wall
  | _ => none

/-- An open state whose cooldown has passed turns half-open. -/
def refresh (now : Instant) (cooldown : Duration) : State → Option State
  | opened entered _ => if cooldown ≤ now.since entered then some halfOpen else none
  | _ => none

/-- What is left of the cooldown of an open state. -/
def remaining (now : Instant) (cooldown : Duration) : State → Option Duration
  | opened entered _ => some (cooldown - now.since entered)
  | _ => none

/-- A success closes a half-open state. -/
def onSuccess : State → Option State
  | halfOpen => some closed
  | _ => none

/-- The count after one more failure. It stops at the largest 32-bit number. -/
def bump (failures : UInt32) : UInt32 :=
  if failures.toNat + 1 < UInt32.size then failures + 1 else failures

/-- What a failure does: the count of failures after it, and the state to move to. A closed state
counts it and opens once the count reaches the threshold, a half-open state opens at once, and
nothing happens to an open one. -/
def onFailure (failures threshold : UInt32) (now : Instant) (wall : Timestamp) :
    State → UInt32 × Option State
  | closed =>
    let failures := bump failures
    (failures, if threshold ≤ failures then some (opened now wall) else none)
  | halfOpen => (failures, some (opened now wall))
  | opened _ _ => (failures, none)

/-! ## The kinds that the rules lead to -/

@[simp] theorem admits_closed : closed.admits = true := rfl

@[simp] theorem admits_halfOpen : halfOpen.admits = true := rfl

@[simp] theorem admits_opened (entered : Instant) (wall : Timestamp) :
    (opened entered wall).admits = false := rfl

theorem refresh_eq_some {now : Instant} {cooldown : Duration} {state next : State}
    (h : state.refresh now cooldown = some next) : state.kind = .opened ∧ next = halfOpen := by
  cases state with
  | closed => cases h
  | halfOpen => cases h
  | opened entered wall =>
    rw [refresh] at h
    split at h
    · cases h; exact ⟨rfl, rfl⟩
    · cases h

theorem onSuccess_eq_some {state next : State} (h : state.onSuccess = some next) :
    state = halfOpen ∧ next = closed := by
  cases state <;> cases h
  exact ⟨rfl, rfl⟩

theorem onFailure_eq_some {failures threshold : UInt32} {now : Instant} {wall : Timestamp}
    {state next : State} (h : (state.onFailure failures threshold now wall).2 = some next) :
    state.kind ≠ .opened ∧ next = opened now wall := by
  cases state with
  | opened entered opened => cases h
  | halfOpen => cases h; exact ⟨nofun, rfl⟩
  | closed =>
    simp only [onFailure] at h
    split at h
    · cases h; exact ⟨nofun, rfl⟩
    · cases h

theorem toNat_bump (failures : UInt32) :
    (bump failures).toNat = min (failures.toNat + 1) (UInt32.size - 1) := by
  have hlt := failures.toNat_lt
  have hsize : UInt32.size = 4294967296 := rfl
  rw [bump, hsize]
  split <;> simp [UInt32.toNat_add] <;> omega

end State

end CircuitBreaker
