/-
Calls on a circuit breaker. A call works on what the circuit breaker remembers and on its
surroundings, gives notice of what it does in order, and ends with a result or a panic. What it has
stored before a panic stays stored.
-/
import CircuitBreaker.Log
import CircuitBreaker.World

namespace CircuitBreaker

/-- What a circuit breaker remembers between calls: its state, how many failures in a row it has
counted, and the failure observed last. -/
structure Memory (ε : Type) where
  state : State
  failures : UInt32
  lastFailure : Option ε

/-- A new circuit breaker is closed and has seen no failure. -/
def Memory.initial {ε : Type} : Memory ε := ⟨.closed, 0, none⟩

/-- Moves to a state. The count of failures starts again where it is closed. -/
def Memory.install {ε : Type} (memory : Memory ε) (next : State) : Memory ε :=
  { memory with
    state := next
    failures := if next.kind = .closed then 0 else memory.failures }

/-- Something that happens in the course of a call. -/
inductive Note
  /-- A line is logged. -/
  | logged (entry : LogEntry)
  /-- The listener for this kind of state runs, if there is one. -/
  | notified (kind : Kind)
  /-- The guarded operation starts. -/
  | started
deriving DecidableEq, Repr

/-- How a call has ended: its result or the text of a panic, what is remembered and what surrounds
the circuit breaker afterwards, and what happened. -/
structure Ended (ε σ α : Type) where
  result : Except String α
  memory : Memory ε
  world : σ
  notes : List Note

/-- Puts what happened earlier before what happened in the call. -/
def Ended.preceded {ε σ α : Type} (before : List Note) (ended : Ended ε σ α) : Ended ε σ α :=
  { ended with notes := before ++ ended.notes }

/-- A call that gives a value of type `α` where failures are of type `ε` and the surroundings have a
state of type `σ`. -/
def Call (ε σ α : Type) : Type := Memory ε → σ → Ended ε σ α

namespace Call

variable {ε σ α β : Type}

/-- A call that does nothing but give a value. -/
def give (a : α) : Call ε σ α := fun memory world => ⟨.ok a, memory, world, []⟩

/-- A call followed by another one that depends on its value. After a panic there is no other. -/
def andThen (call : Call ε σ α) (next : α → Call ε σ β) : Call ε σ β := fun memory world =>
  let first := call memory world
  match first.result with
  | .error panic => ⟨.error panic, first.memory, first.world, first.notes⟩
  | .ok a => (next a first.memory first.world).preceded first.notes

instance : Monad (Call ε σ) where
  pure := give
  bind := andThen

/-! ## The parts that calls are made of -/

/-- What is remembered. -/
def memory : Call ε σ (Memory ε) := fun memory world => ⟨.ok memory, memory, world, []⟩

/-- Changes what is remembered. -/
def update (change : Memory ε → Memory ε) : Call ε σ Unit := fun memory world =>
  ⟨.ok (), change memory, world, []⟩

/-- Reads something from the surroundings. -/
def read (look : σ → α × σ) : Call ε σ α := fun memory world =>
  ⟨.ok (look world).1, memory, (look world).2, []⟩

/-- Gives notice of something. -/
def note (note : Note) : Call ε σ Unit := fun memory world => ⟨.ok (), memory, world, [note]⟩

/-- Ends in a panic if there is a text for it. -/
def panicIf : Option String → Except String Unit
  | none => .ok ()
  | some text => .error text

/-- Runs the listener for a kind of state; if it panics, so does the call. -/
def notify (w : World σ) (kind : Kind) : Call ε σ Unit := fun memory world =>
  ⟨panicIf (w.notify kind world).1, memory, (w.notify kind world).2, [.notified kind]⟩

/-! ## How the parts fit together -/

@[simp] theorem preceded_nil (ended : Ended ε σ α) : ended.preceded [] = ended := rfl

@[simp] theorem preceded_preceded (early late : List Note) (ended : Ended ε σ α) :
    (ended.preceded late).preceded early = ended.preceded (early ++ late) := by
  simp [Ended.preceded]

@[simp] theorem pure_apply (a : α) (memory : Memory ε) (world : σ) :
    (pure a : Call ε σ α) memory world = ⟨.ok a, memory, world, []⟩ := rfl

theorem bind_ok {call : Call ε σ α} {next : α → Call ε σ β} {memory : Memory ε} {world : σ} {a : α}
    (h : (call memory world).result = .ok a) :
    (call >>= next) memory world =
      (next a (call memory world).memory (call memory world).world).preceded
        (call memory world).notes := by
  show andThen call next memory world = _
  simp only [andThen, h]

theorem bind_panic {call : Call ε σ α} {next : α → Call ε σ β} {memory : Memory ε} {world : σ}
    {text : String} (h : (call memory world).result = .error text) :
    (call >>= next) memory world =
      ⟨.error text, (call memory world).memory, (call memory world).world,
        (call memory world).notes⟩ := by
  show andThen call next memory world = _
  simp only [andThen, h]

@[simp] theorem memory_bind (next : Memory ε → Call ε σ β) (memory : Memory ε) (world : σ) :
    (Call.memory >>= next) memory world = next memory memory world := rfl

@[simp] theorem update_bind (change : Memory ε → Memory ε) (next : Unit → Call ε σ β)
    (memory : Memory ε) (world : σ) :
    (update change >>= next) memory world = next () (change memory) world := rfl

@[simp] theorem read_bind (look : σ → α × σ) (next : α → Call ε σ β) (memory : Memory ε)
    (world : σ) :
    (read look >>= next) memory world = next (look world).1 memory (look world).2 := rfl

@[simp] theorem note_bind (n : Note) (next : Unit → Call ε σ β) (memory : Memory ε) (world : σ) :
    (note n >>= next) memory world = (next () memory world).preceded [n] := rfl

end Call

end CircuitBreaker
