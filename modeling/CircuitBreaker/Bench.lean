/-
A test bench for a circuit breaker: surroundings with a clock that only its user moves, and
listeners that leave a trace, move the clock or panic when they are told to.
-/
import CircuitBreaker.Builder
import CircuitBreaker.Session
import CircuitBreaker.Time.ManualClock

namespace CircuitBreaker

/-! ## Clocks -/

/-- The clocks of a bench: one that is moved forward by hand, one that shows what it is set to, and
one that stands still but for sleep. -/
inductive BenchClock
  | manual (clock : ManualClock)
  | scripted (now : Instant) (wall : Timestamp)
  | sleeping (clock : ManualClock)

namespace BenchClock

/-- What the clock shows. -/
def now : BenchClock → Instant
  | manual clock => clock.now
  | scripted now _ => now
  | sleeping clock => clock.now

/-- The universal time that the clock shows. -/
def wall : BenchClock → Timestamp
  | manual clock => clock.wallNow
  | scripted _ wall => wall
  | sleeping clock => clock.wallNow

/-- Moves the clock. Each clock takes only the move that is its own. -/
def move (m : ClockMove) (clock : BenchClock) : BenchClock :=
  match m, clock with
  | .advance step, manual clock => manual (clock.advance step)
  | .set now' wall', scripted now wall => scripted (now'.getD now) (wall'.getD wall)
  | .sleep time, sleeping clock => sleeping (clock.advance time)
  | _, clock => clock

end BenchClock

/-! ## Listeners -/

/-- A listener of a bench. It leaves its tag, may look at the circuit breaker, may move the clock,
and may panic the n-th time that it runs. -/
structure BenchListener where
  id : Nat
  tag : String
  looks : Bool
  advances : Option Duration
  panicsOn : Option Nat
deriving DecidableEq

namespace BenchListener

/-- The text of the listener's panic. -/
def panicText (listener : BenchListener) : String := "listener " ++ listener.tag

end BenchListener

/-- The state of a bench: what its clock shows, and how often each listener has run. -/
structure Bench where
  clock : BenchClock
  runs : List Nat

namespace Bench

/-- How often a listener has run. -/
def runsOf (bench : Bench) (listener : BenchListener) : Nat := bench.runs.count listener.id

/-- Runs a listener: it is counted, moves the clock if it does so, and then panics if it is time. -/
def run (listener : BenchListener) (bench : Bench) : Option String × Bench :=
  let bench : Bench := {
    clock := match listener.advances with
      | some step => bench.clock.move (.advance step)
      | none => bench.clock
    runs := listener.id :: bench.runs }
  (if listener.panicsOn = some (bench.runsOf listener) then some listener.panicText else none, bench)

/-- A bench as the surroundings of a circuit breaker with these listeners. -/
def world (listeners : Listeners BenchListener) : World Bench where
  now bench := (bench.clock.now, bench)
  wall bench := (bench.clock.wall, bench)
  notify kind bench :=
    match listeners.get kind with
    | none => (none, bench)
    | some listener => run listener bench

/-- Moves the clock of a bench. -/
def move (m : ClockMove) (bench : Bench) : Bench := { bench with clock := bench.clock.move m }

/-- A circuit breaker on a bench. -/
def circuit (breaker : Breaker BenchListener) : Circuit Bench :=
  ⟨breaker.settings, world breaker.listeners⟩

/-! ## Traces -/

/-- What an onlooker sees of a circuit breaker on a bench. -/
inductive Trace
  | log (level : Level) (message : String)
  | fire (tag : String)
  /-- A listener looked at the circuit breaker, whose state cannot be seen during a call. -/
  | peek
  | run
deriving DecidableEq, Repr

/-- What an onlooker sees of something that happens. -/
def traces (breaker : Breaker BenchListener) : Note → List Trace
  | .logged entry => [.log entry.level (entry.message breaker.settings)]
  | .notified kind =>
    match breaker.listeners.get kind with
    | none => []
    | some listener => .fire listener.tag :: if listener.looks then [.peek] else []
  | .started => [.run]

end Bench

end CircuitBreaker
