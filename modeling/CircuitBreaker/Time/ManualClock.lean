/-
A clock that stands still until it is moved by hand. It shows its origins plus the time by which it
was moved, which never passes a fixed limit.
-/
import CircuitBreaker.Time.Instant
import CircuitBreaker.Time.Timestamp

namespace CircuitBreaker

/-- A clock moved by hand: where it started, on both of its scales, and how far it has moved. -/
structure ManualClock where
  origin : Instant
  wallOrigin : Timestamp
  elapsed : Duration

namespace ManualClock

/-- A clock cannot be moved by more than a hundred years of 365 days. -/
def maxOffset : Duration := .ofParts (100 * 365 * 24 * 60 * 60) 0

/-- A clock that has not been moved yet. -/
def start (origin : Instant) (wallOrigin : Timestamp) : ManualClock := ⟨origin, wallOrigin, .zero⟩

/-- How far a clock has moved after a further move, which stops at the limit. -/
def moved (elapsed step : Duration) : Duration := min (elapsed + step) maxOffset

/-- Moves the clock forward. -/
def advance (clock : ManualClock) (step : Duration) : ManualClock :=
  { clock with elapsed := moved clock.elapsed step }

/-- What the clock shows, or its origin where that cannot be shown. -/
def now (clock : ManualClock) : Instant :=
  (clock.origin.add? clock.elapsed).getD clock.origin

/-- The universal time that the clock shows, or its origin where that cannot be shown. That the time by
which the clock has moved fits a signed 64-bit number of milliseconds is not checked here. It always does,
as no clock moves by more than `maxOffset` (`Families.Shows.millis_lt`). -/
def wallNow (clock : ManualClock) : Timestamp :=
  (clock.wallOrigin.add? clock.elapsed).getD clock.wallOrigin

end ManualClock

/-! ## Clocks that share their hands -/

/-- One of several handles on a clock: clocks made by cloning share how far they have moved. -/
structure ClockHandle where
  family : Nat
  origin : Instant
  wallOrigin : Timestamp

/-- A collection of handles, and for every family of clones how far its clock has moved. -/
structure ClockShelf where
  elapsed : List Duration
  handles : List ClockHandle

namespace ClockShelf

/-- No clock at all. -/
def empty : ClockShelf := ⟨[], []⟩

/-- How far the clock behind a handle has moved. -/
def elapsedOf (shelf : ClockShelf) (handle : ClockHandle) : Duration :=
  shelf.elapsed[handle.family]?.getD .zero

/-- The clock behind a handle. -/
def clock (shelf : ClockShelf) (handle : ClockHandle) : ManualClock :=
  ⟨handle.origin, handle.wallOrigin, shelf.elapsedOf handle⟩

/-- Adds an independent clock. -/
def addFresh (shelf : ClockShelf) (origin : Instant) (wallOrigin : Timestamp) : ClockShelf :=
  ⟨shelf.elapsed ++ [.zero], shelf.handles ++ [⟨shelf.elapsed.length, origin, wallOrigin⟩]⟩

/-- Adds a clone of the handle with index `i`, if there is one. -/
def addClone (shelf : ClockShelf) (i : Nat) : ClockShelf :=
  match shelf.handles[i]? with
  | some handle => { shelf with handles := shelf.handles ++ [handle] }
  | none => shelf

/-- Moves the clock behind the handle with index `i`, if there is one. -/
def advance (shelf : ClockShelf) (i : Nat) (step : Duration) : ClockShelf :=
  match shelf.handles[i]? with
  | some handle =>
    { shelf with elapsed := shelf.elapsed.modify handle.family (ManualClock.moved · step) }
  | none => shelf

end ClockShelf

end CircuitBreaker
