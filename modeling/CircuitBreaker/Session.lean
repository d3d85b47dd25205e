/-
Sessions: many clients at work on one circuit breaker. A client may make its own calls while its
operation runs, and may leave a call waiting for its outcome while others go on.
-/
import CircuitBreaker.Circuit

namespace CircuitBreaker

/-! ## What clients do -/

/-- How an operation ends: with a value, with a failure, or by a panic. -/
inductive Outcome (α ε : Type)
  | ok (value : α)
  | failure (failure : ε)
  | panic (text : String)

/-- How an operation is given to the circuit breaker: as something to run, or as a value that is
there already. -/
inductive Form
  | running
  | constant
deriving DecidableEq, Repr

/-- What a client can do to the clock of its surroundings. -/
inductive ClockMove
  | advance (step : Duration)
  | set (now : Option Instant) (wall : Option Timestamp)
  | sleep (time : Duration)

/-- What a client does. -/
inductive Action (α ε : Type)
  /-- Attempts an operation that ends as given, and acts as given while it runs. -/
  | attempt (form : Form) (outcome : Outcome α ε) (during : List (Action α ε))
  | kind
  | isKind (kind : Kind)
  | forceOpen
  | forceClose
  | snapshot
  /-- Looks at the circuit breaker without a call on it. -/
  | look
  | move (clock : ClockMove)
  /-- Does the same over and over. -/
  | repeated (times : Nat) (actions : List (Action α ε))
  /-- Prepares a call that waits for its outcome; nothing is admitted yet. -/
  | prepare (id : String)
  /-- Goes on with a prepared call as far as it gets. -/
  | poll (id : String)
  /-- Settles how the operation of a prepared call ends. -/
  | resolve (id : String) (outcome : Outcome α ε)
  /-- Gives a prepared call up. -/
  | abandon (id : String)

/-- A prepared call: whether its operation has been admitted, and how that ends. -/
structure Pending (α ε : Type) where
  admitted : Bool
  outcome : Option (Outcome α ε)

/-- What a client gets to know. -/
inductive Answer (α ε : Type)
  | succeeded (value : α)
  | refused (error : AttemptError ε)
  | panicked (text : String)
  | kind (kind : Kind)
  | truth (value : Bool)
  | snapshot (snapshot : Snapshot)
  | done
  /-- The actions nested in a repetition are those of all its passes. -/
  | repeated
  | prepared (replaced : Bool)
  | waiting
  | resolved
  | abandoned
  | unknownCall

/-- A circuit breaker at work: what it remembers, its surroundings, and the calls that wait. -/
structure Session (α ε σ : Type) where
  memory : Memory ε
  world : σ
  calls : List (String × Pending α ε)

/-- What came of an action: the answer; what happened before and after other actions that were
nested in it; reports of these; and the session afterwards. -/
inductive Report (α ε σ : Type)
  | mk (answer : Answer α ε) (before : List Note) (nested : List (Report α ε σ)) (after : List Note)
    (session : Session α ε σ)

namespace Report

variable {α ε σ : Type}

/-- What the client got to know. -/
def answer : Report α ε σ → Answer α ε
  | mk answer _ _ _ _ => answer

/-- The reports of nested actions. -/
def nested : Report α ε σ → List (Report α ε σ)
  | mk _ _ nested _ _ => nested

/-- The session after the action. -/
def session : Report α ε σ → Session α ε σ
  | mk _ _ _ _ session => session

/-- What happened in the action itself, nested actions left out. -/
def notes : Report α ε σ → List Note
  | mk _ before _ after _ => before ++ after

mutual

/-- All that happened, in the order of time. -/
def timeline : Report α ε σ → List Note
  | mk _ before nested after _ => before ++ timelines nested ++ after

/-- All that happened in a row of actions. -/
def timelines : List (Report α ε σ) → List Note
  | [] => []
  | report :: reports => report.timeline ++ timelines reports

end

end Report

namespace Session

variable {α ε σ β : Type}

/-- A session with a new circuit breaker. -/
def start (world : σ) : Session α ε σ := ⟨.initial, world, []⟩

/-- A report without nested actions. -/
def report (session : Session α ε σ) (answer : Answer α ε) (notes : List Note) : Report α ε σ :=
  .mk answer notes [] [] session

/-- Makes a call, and takes its memory and its surroundings into the session. -/
def call (session : Session α ε σ) (call : Call ε σ β) : Ended ε σ β × Session α ε σ :=
  let ended := call session.memory session.world
  (ended, { session with memory := ended.memory, world := ended.world })

/-- Makes a call and reports its value, or its panic. -/
def ask (session : Session α ε σ) (call : Call ε σ β) (answer : β → Answer α ε) : Report α ε σ :=
  let (ended, session) := session.call call
  session.report (match ended.result with | .ok b => answer b | .error text => .panicked text)
    ended.notes

/-! ## Calls that wait -/

/-- The call that waits under a name. -/
def pending? (session : Session α ε σ) (id : String) : Option (Pending α ε) :=
  (session.calls.find? (·.1 = id)).map (·.2)

/-- Forgets the call under a name. -/
def without (session : Session α ε σ) (id : String) : Session α ε σ :=
  { session with calls := session.calls.filter (·.1 ≠ id) }

/-- Lets a call wait under a name, in place of another one. -/
def withCall (session : Session α ε σ) (id : String) (pending : Pending α ε) : Session α ε σ :=
  { session with calls := (id, pending) :: (session.without id).calls }

/-- How an attempt that ended without a panic of its own is answered. -/
def answerOf : Except (AttemptError ε) α → Answer α ε
  | .ok a => .succeeded a
  | .error e => .refused e

/-- The outcome of an admitted operation: a panic passes through, and anything else is recorded. -/
def settle (c : Circuit σ) (session : Session α ε σ) : Outcome α ε → Report α ε σ
  | .panic text => session.report (.panicked text) []
  | .ok a => session.ask (c.record (.ok a)) answerOf
  | .failure e => session.ask (c.record (.error e)) answerOf

/-- Goes on with a call whose operation has been admitted: it ends if its outcome is there. -/
def proceed (c : Circuit σ) (session : Session α ε σ) (id : String) (pending : Pending α ε) :
    Report α ε σ :=
  match pending.outcome with
  | none => (session.withCall id { pending with admitted := true }).report .waiting []
  | some outcome => (session.without id).settle c outcome

/-- Adds what happened before a report. -/
def preceded (before : List Note) : Report α ε σ → Report α ε σ
  | .mk answer notes nested after session => .mk answer (before ++ notes) nested after session

/-- Goes on with a call as far as it gets. The first time it has to be admitted. -/
def poll (c : Circuit σ) (session : Session α ε σ) (id : String) : Report α ε σ :=
  match session.pending? id with
  | none => session.report .unknownCall []
  | some pending =>
    if pending.admitted then session.proceed c id pending
    else
      let (ended, session) := session.call c.admission
      match ended.result with
      | .error text => (session.without id).report (.panicked text) ended.notes
      | .ok (some r) => (session.without id).report (.refused (.rejected r)) ended.notes
      | .ok none => preceded (ended.notes ++ [.started]) (session.proceed c id pending)

/-! ## Actions -/

/-- Does the same over and over. The reports are those of all passes in a row. -/
def passes (pass : Session α ε σ → List (Report α ε σ) × Session α ε σ) :
    Nat → Session α ε σ → List (Report α ε σ) × Session α ε σ
  | 0, session => ([], session)
  | times + 1, session =>
    let (reports, session) := pass session
    let (later, session) := passes pass times session
    (reports ++ later, session)

mutual

/-- What comes of an action. `move` tells what a move of the clock does to the surroundings. -/
def perform (c : Circuit σ) (move : ClockMove → σ → σ) :
    Action α ε → Session α ε σ → Report α ε σ
  | .attempt form outcome during, session =>
    let (ended, session) := session.call c.admission
    match ended.result with
    | .error text => session.report (.panicked text) ended.notes
    | .ok (some r) => session.report (.refused (.rejected r)) ended.notes
    | .ok none =>
      match form with
      | .constant => preceded ended.notes (session.settle c outcome)
      | .running =>
        let (nested, session) := performAll c move during session
        let settled := session.settle c outcome
        .mk settled.answer (ended.notes ++ [.started]) nested settled.notes settled.session
  | .kind, session => session.ask c.kind .kind
  | .isKind kind, session => session.ask c.kind fun k => .truth (k = kind)
  | .forceOpen, session => session.ask c.forceOpen fun _ => .done
  | .forceClose, session => session.ask c.forceClose fun _ => .done
  | .snapshot, session => session.ask c.snapshot .snapshot
  | .look, session => session.report .done []
  | .move m, session => report { session with world := move m session.world } .done []
  | .repeated times actions, session =>
    let (reports, session) := passes (performAll c move actions) times session
    .mk .repeated [] reports [] session
  | .prepare id, session =>
    (session.withCall id ⟨false, none⟩).report (.prepared (session.pending? id).isSome) []
  | .poll id, session => session.poll c id
  | .resolve id outcome, session =>
    match session.pending? id with
    | some pending => (session.withCall id { pending with outcome := some outcome }).report .resolved []
    | none => session.report .unknownCall []
  | .abandon id, session =>
    match session.pending? id with
    | some _ => (session.without id).report .abandoned []
    | none => session.report .unknownCall []

/-- What comes of actions in a row, and the session after them. -/
def performAll (c : Circuit σ) (move : ClockMove → σ → σ) :
    List (Action α ε) → Session α ε σ → List (Report α ε σ) × Session α ε σ
  | [], session => ([], session)
  | action :: actions, session =>
    let report := perform c move action session
    let (reports, session) := performAll c move actions report.session
    (report :: reports, session)

end

end Session

end CircuitBreaker
