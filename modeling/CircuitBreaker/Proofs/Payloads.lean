/-
What operations return. A circuit breaker hands failures and values of operations on, and looks into
neither. So erasing them all, from what is remembered, from the calls and from the answers, commutes with
running: what is decided, logged, started and counted is the same with nothing in their place.
-/
import CircuitBreaker.Proofs.CoupledSessions

namespace CircuitBreaker

variable {α α' ε ε' σ : Type}

/-! ## Erasing -/

def Memory.erased (memory : Memory ε) : Memory Unit :=
  { memory with lastFailure := memory.lastFailure.map fun _ => () }

def Rejection.erased (r : Rejection ε) : Rejection Unit :=
  { r with lastFailure := r.lastFailure.map fun _ => () }

/-- Which answer it is stays, and whether a rejection tells of a failure. -/
def Answer.erased : Answer α ε → Answer Unit Unit
  | succeeded _ => succeeded ()
  | refused (.failed _) => refused (.failed ())
  | refused (.rejected r) => refused (.rejected r.erased)
  | panicked text => panicked text
  | kind k => .kind k
  | truth value => truth value
  | snapshot s => snapshot s
  | done => done
  | repeated => repeated
  | prepared replaced => prepared replaced
  | waiting => waiting
  | resolved => resolved
  | abandoned => abandoned
  | unknownCall => unknownCall

def Ended.erased (ended : Ended ε σ (Answer α ε)) : Ended Unit σ (Answer Unit Unit) where
  result := ended.result.map Answer.erased
  memory := ended.memory.erased
  world := ended.world
  notes := ended.notes

/-- A success stays a success, and a failure a failure. -/
def Turn.erased : Turn α ε → Turn Unit Unit
  | admission attempt form => admission attempt form
  | recording attempt (.ok _) => recording attempt (.ok ())
  | recording attempt (.error _) => recording attempt (.error ())
  | kind => kind
  | snapshot => snapshot
  | forceOpen => forceOpen
  | forceClose => forceClose

def Outcome.erased : Outcome α ε → Outcome Unit Unit
  | ok _ => ok ()
  | failure _ => failure ()
  | panic text => panic text

def Pending.erased (pending : Pending α ε) : Pending Unit Unit where
  admitted := pending.admitted
  outcome := pending.outcome.map Outcome.erased

def Session.erased (session : Session α ε σ) : Session Unit Unit σ where
  memory := session.memory.erased
  world := session.world
  calls := session.calls.map (Prod.map id Pending.erased)

mutual

/-- The action, with nothing in the place of what operations return. -/
def Action.erased : Action α ε → Action Unit Unit
  | attempt form outcome during => attempt form outcome.erased (erasedAll during)
  | kind => kind
  | isKind k => isKind k
  | forceOpen => forceOpen
  | forceClose => forceClose
  | snapshot => snapshot
  | look => look
  | move m => move m
  | repeated times actions => repeated times (erasedAll actions)
  | prepare id => prepare id
  | poll id => poll id
  | resolve id outcome => resolve id outcome.erased
  | abandon id => abandon id

/-- The actions in a row. -/
def Action.erasedAll : List (Action α ε) → List (Action Unit Unit)
  | [] => []
  | action :: actions => action.erased :: erasedAll actions

end

theorem Session.pending?_erased (session : Session α ε σ) (id : String) :
    session.erased.pending? id = (session.pending? id).map Pending.erased := by
  unfold erased pending?
  rw [List.find?_map, Option.map_map, Option.map_map]
  rfl

/-! ## A circuit breaker next to an erased one -/

namespace Coupling

/-- The circuit breaker next to itself, with nothing in the place of what operations return. -/
def erasing (α ε : Type) (c : Circuit σ) : Coupling α Unit ε Unit c c :=
  { same α ε c with
    failures := fun _ _ => True
    last := fun last last' => last' = last.map fun _ => ()
    values := fun _ _ => True
    last_none := rfl
    last_some := fun _ => rfl }

variable {c : Circuit σ}

theorem memories_erased (memory : Memory ε) : (erasing α ε c).Memories memory memory.erased :=
  ⟨states_refl (fun _ => rfl) (fun _ => rfl) _, rfl, fun _ => rfl, rfl⟩

theorem turns_erased (turn : Turn α ε) : (erasing α ε c).Turns turn turn.erased := by
  cases turn with
  | admission attempt form => exact .admission attempt form
  | recording attempt outcome =>
    cases outcome with
    | ok a => exact .recording attempt (.ok trivial)
    | error e => exact .recording attempt (.error trivial)
  | kind => exact .kind
  | snapshot => exact .snapshot
  | forceOpen => exact .forceOpen
  | forceClose => exact .forceClose

theorem outcomes_erased (outcome : Outcome α ε) : (erasing α ε c).Outcomes outcome outcome.erased := by
  cases outcome with
  | ok a => exact .ok trivial
  | failure e => exact .failure trivial
  | panic text => exact .panic text

theorem sessions_erased (session : Session α ε σ) :
    (erasing α ε c).Sessions (fun _ => (erasing α ε c).Waits) session session.erased := by
  refine ⟨memories_erased session.memory, rfl, fun id => ?_⟩
  rw [session.pending?_erased]
  cases session.pending? id with
  | none => exact .none
  | some pending =>
    refine .some ⟨rfl, ?_⟩
    rw [Pending.erased]
    cases pending.outcome with
    | none => exact .none
    | some outcome => exact .some (outcomes_erased outcome)

mutual

theorem actions_erased : ∀ action : Action α ε,
    (erasing α ε c).Actions (fun _ => (erasing α ε c).Waits) action action.erased
  | .attempt form outcome during => .attempt form (outcomes_erased outcome) (allActions_erased during)
  | .repeated times actions => .repeated times (allActions_erased actions)
  | .kind => .kind
  | .isKind kind => .isKind kind
  | .forceOpen => .forceOpen
  | .forceClose => .forceClose
  | .snapshot => .snapshot
  | .look => .look
  | .move m => .move m
  | .prepare _ => .prepare rfl
  | .poll _ => .poll rfl
  | .resolve _ outcome => .resolve rfl (outcomes_erased outcome)
  | .abandon _ => .abandon rfl

theorem allActions_erased : ∀ actions : List (Action α ε),
    (erasing α ε c).AllActions (fun _ => (erasing α ε c).Waits) actions (Action.erasedAll actions)
  | [] => .nil
  | action :: actions => .cons (actions_erased action) (allActions_erased actions)

end

theorem Memories.erased {memory : Memory ε} {memory' : Memory Unit}
    (h : (erasing α ε c).Memories memory memory') : memory.erased = memory' := by
  obtain ⟨state', failures', last'⟩ := memory'
  obtain ⟨hstate, hfailures, -, hlast⟩ := h
  obtain rfl : memory.state = state' := hstate.eq (fun _ _ hi => hi) fun _ _ ht => ht
  obtain rfl : memory.failures = failures' := hfailures
  obtain rfl : last' = _ := hlast
  rfl

theorem Snapshots.eq {s s' : Snapshot} (h : (erasing α ε c).Snapshots s s') : s = s' := by
  obtain ⟨hopened, hcaptured⟩ := h.dates fun _ _ ht => ht
  obtain ⟨f, f', hlast, hs, hs'⟩ := h.last
  have hseen : s.hasLastFailure = s'.hasLastFailure := by
    rw [hs, hs', show f' = _ from hlast, Option.isSome_map]
  rw [← h.rest, ← show s.failures = _ from h.failures, ← hopened, ← hseen, ← hcaptured]

theorem Answers.erased {answer : Answer α ε} {answer' : Answer Unit Unit}
    (h : (erasing α ε c).Answers answer answer') : answer.erased = answer' := by
  cases h with
  | @rejected r r' h =>
    obtain ⟨name', last', remaining'⟩ := r'
    obtain ⟨hname, hremaining, hlast⟩ := h
    obtain rfl : r.name = name' := hname
    obtain rfl : r.remaining = remaining' := hremaining
    obtain rfl : last' = _ := hlast
    rfl
  | snapshot h => exact congrArg Answer.snapshot h.eq
  | _ => rfl

theorem Endings.erased {ended : Ended ε σ (Answer α ε)} {ended' : Ended Unit σ (Answer Unit Unit)}
    (h : (erasing α ε c).Endings (erasing α ε c).Answers ended ended') : ended.erased = ended' := by
  obtain ⟨result, memory, world, notes⟩ := ended
  obtain ⟨result', memory', world', notes'⟩ := ended'
  obtain ⟨hresult, hmemory, hworld, hnotes⟩ := h
  obtain rfl : world = world' := hworld
  obtain rfl : notes = notes' := notes_eq (fun _ _ hc => hc) hnotes
  obtain rfl : memory.erased = memory' := hmemory.erased
  have hsame : result.map Answer.erased = result' := by
    cases hresult with
    | value h => exact congrArg Except.ok h.erased
    | panic text => rfl
  rw [← hsame]
  rfl

end Coupling

/-! ## Running commutes with erasing -/

section

variable (c : Circuit σ)

/-- A run of erased turns ends every turn as the run of the turns does, but for what operations return. -/
theorem steps_erased (memory : Memory ε) (events : List (Turn α ε × σ)) :
    (c.steps memory events).map (·.ended.erased) =
      (c.steps memory.erased (events.map (Prod.map Turn.erased id))).map (·.ended) := by
  have hevents : List.Forall₂ (Coupling.erasing α ε c).Events events (events.map (Prod.map Turn.erased id)) :=
    List.forall₂_map_right_iff.2 (List.forall₂_same.2 fun event _ => ⟨Coupling.turns_erased event.1, rfl⟩)
  exact map_eq_of_forall₂ (fun _ _ h => h.ended.erased)
    (Coupling.coupled_steps hevents (Coupling.memories_erased memory)).1

/-- Erased clients go through the same, and are told the same, but for what operations return. -/
theorem performAll_erased (move : ClockMove → σ → σ) (session : Session α ε σ) (actions : List (Action α ε)) :
    let run := Session.performAll c move actions session
    let run' := Session.performAll c move (Action.erasedAll actions) session.erased
    Report.timelines run.1 = Report.timelines run'.1 ∧
      (Report.toldAll run.1).map (Prod.map Answer.erased Memory.erased) = Report.toldAll run'.1 ∧
      run.2.memory.erased = run'.2.memory ∧ run.2.world = run'.2.world := by
  intro run run'
  have hall : (Coupling.erasing α ε c).AllReports (fun _ => (Coupling.erasing α ε c).Waits) run run' :=
    Coupling.coupled_performAll (fun m _ _ hw => congrArg (move m) hw) actions (Coupling.allActions_erased actions)
      (Coupling.sessions_erased session)
  have htold : (Report.toldAll run.1).map (Prod.map Answer.erased Memory.erased) =
      (Report.toldAll run'.1).map (Prod.map id id) :=
    Coupling.told_eq (fun _ _ ha => ha.erased) (fun _ _ hm => hm.erased) hall.told
  rw [Prod.map_id, List.map_id] at htold
  exact ⟨Coupling.notes_eq (fun _ _ hc => hc) hall.timeline, htold, hall.session.memory.erased, hall.session.world⟩

end

/-! ## Payloads leak nowhere -/

/-- The lines that are logged, each with its level and its full text. -/
def Circuit.lines (c : Circuit σ) (notes : List Note) : List (Level × String) :=
  notes.filterMap fun
    | .logged entry => some (entry.level, entry.message c.settings)
    | _ => none

/-- Nothing of what operations return leaks into logs or decisions. Let two runs take the same turns in the
same surroundings, and let only the failures and values of operations be others, even of another type, where
a success stays a success and a failure a failure; and let failures have been observed last before both of
them or before none. Then every turn of the one ends as that of the other: it returns, rejects or panics
alike, with the same left of the cooldown, leaves the same state and count of failures, and a failure
observed last if the other one does; the same lines are logged, word for word, the same listeners run, and
the same operations start. So it is in sessions, where operations make calls and futures wait. -/
theorem payloads_unread (c : Circuit σ) (move : ClockMove → σ → σ) :
    (∀ (memory : Memory ε) (memory' : Memory ε') (events : List (Turn α ε × σ)) (events' : List (Turn α' ε' × σ)),
      memory.erased = memory'.erased →
      events.map (Prod.map Turn.erased id) = events'.map (Prod.map Turn.erased id) →
      (c.steps memory events).map (·.ended.erased) = (c.steps memory' events').map (·.ended.erased) ∧
        (c.steps memory events).map (fun s => c.lines s.notes) =
          (c.steps memory' events').map (fun s => c.lines s.notes)) ∧
    ∀ (session : Session α ε σ) (session' : Session α' ε' σ) (actions : List (Action α ε))
      (actions' : List (Action α' ε')), session.erased = session'.erased →
      Action.erasedAll actions = Action.erasedAll actions' →
      let run := Session.performAll c move actions session
      let run' := Session.performAll c move actions' session'
      Report.timelines run.1 = Report.timelines run'.1 ∧
        c.lines (Report.timelines run.1) = c.lines (Report.timelines run'.1) ∧
        (Report.toldAll run.1).map (Prod.map Answer.erased Memory.erased) =
          (Report.toldAll run'.1).map (Prod.map Answer.erased Memory.erased) ∧
        run.2.memory.erased = run'.2.memory.erased ∧ run.2.world = run'.2.world := by
  refine ⟨fun memory memory' events events' hm he => ?_, fun session session' actions actions' hs ha => ?_⟩
  · have hsame : (c.steps memory events).map (·.ended.erased) = (c.steps memory' events').map (·.ended.erased) := by
      rw [steps_erased, steps_erased, hm, he]
    refine ⟨hsame, ?_⟩
    -- the lines are part of the end of a turn
    have hlines := congrArg (List.map fun ended => c.lines ended.notes) hsame
    rwa [List.map_map, List.map_map] at hlines
  · intro run run'
    obtain ⟨htimeline, htold, hmemory, hworld⟩ := performAll_erased c move session actions
    obtain ⟨htimeline', htold', hmemory', hworld'⟩ := performAll_erased c move session' actions'
    rw [hs, ha] at htimeline htold hmemory hworld
    have hnotes : Report.timelines run.1 = Report.timelines run'.1 := htimeline.trans htimeline'.symm
    exact ⟨hnotes, congrArg c.lines hnotes, htold.trans htold'.symm, hmemory.trans hmemory'.symm,
      hworld.trans hworld'.symm⟩

namespace Bench

/-- An operation that fails with a failure, and an attempt after it. -/
def failing {β : Type} (failure : β) : List (Turn Unit β × Bench) :=
  [(.admission 0 .running, reading 0), (.recording 0 (.error failure), reading 0), (.admission 1 .running, reading 5)]

end Bench

/-- A text and a number as failures: both open the circuit, with the same line in the log. -/
theorem payloads_unread_fragile :
    let spoken := Bench.fragile.steps (.initial : Memory String) (Bench.failing "secret")
    let counted := Bench.fragile.steps (.initial : Memory Nat) (Bench.failing 42)
    spoken.map (·.ended.erased) = counted.map (·.ended.erased) ∧
      spoken.map (fun s => Bench.fragile.lines s.notes) = counted.map (fun s => Bench.fragile.lines s.notes) ∧
      counted.map (·.notes) = [[.started], [.logged (.opening .closed 1), .notified .opened],
        [.logged (.rejecting ⟨999995⟩)]] := by
  intro spoken counted
  obtain ⟨hruns, -⟩ := @payloads_unread Unit Unit String Nat _ Bench.fragile Bench.move
  obtain ⟨hended, hlines⟩ := hruns .initial .initial (Bench.failing "secret") (Bench.failing 42) rfl rfl
  exact ⟨hended, hlines, by decide⟩

end CircuitBreaker
