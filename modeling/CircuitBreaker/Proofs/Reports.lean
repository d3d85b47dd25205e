/-
How the actions of a session go: what waits under which name, how attempts begin and go on, what clients
are told in the end, and of which calls the actions speak.
-/
import CircuitBreaker.Proofs.Sessions

namespace CircuitBreaker

variable {α α' ε ε' σ σ' : Type} {c : Circuit σ} {move : ClockMove → σ → σ}

/-! ## What clients are told -/

/-- The answer is the last one that a client gets on its call. The others are about calls that wait, and
about repetitions, whose actions have answers of their own. -/
def Answer.final : Answer α ε → Bool
  | succeeded _ | refused _ | panicked _ | kind _ | truth _ | snapshot _ | done => true
  | repeated | prepared _ | waiting | resolved | abandoned | unknownCall => false

namespace Report

mutual

/-- The final answers in the order of time, each with what is remembered then. -/
def told : Report α ε σ → List (Answer α ε × Memory ε)
  | mk answer _ nested _ session =>
    toldAll nested ++ if answer.final then [(answer, session.memory)] else []

/-- The final answers in a row of actions. -/
def toldAll : List (Report α ε σ) → List (Answer α ε × Memory ε)
  | [] => []
  | report :: reports => report.told ++ toldAll reports

end

theorem toldAll_append : ∀ early late : List (Report α ε σ),
    toldAll (early ++ late) = toldAll early ++ toldAll late
  | [], late => by simp [toldAll]
  | report :: early, late => by
    rw [List.cons_append, toldAll, toldAll, toldAll_append early late, List.append_assoc]

end Report

namespace Session

@[simp] theorem told_preceded (before : List Note) (report : Report α ε σ) :
    (preceded before report).told = report.told := by
  cases report; rfl

theorem told_report (session : Session α ε σ) (answer : Answer α ε) (notes : List Note) :
    (session.report answer notes).told = if answer.final then [(answer, session.memory)] else [] :=
  List.nil_append _

theorem told_settle (c : Circuit σ) (session : Session α ε σ) (outcome : Outcome α ε) :
    (session.settle c outcome).told =
      if (session.settle c outcome).answer.final then
        [((session.settle c outcome).answer, (session.settle c outcome).session.memory)] else [] := by
  cases outcome <;> rfl

end Session

/-! ## Calls that wait -/

namespace Session

theorem pending?_without_self (session : Session α ε σ) (id : String) :
    (session.without id).pending? id = none := by
  simp [without, pending?]

theorem pending?_without_of_ne (session : Session α ε σ) {id other : String} (h : other ≠ id) :
    (session.without id).pending? other = session.pending? other := by
  unfold without pending?
  rw [List.find?_filter]
  congr 2
  funext call
  by_cases hc : call.1 = other
  · simp [hc, h]
  · simp [hc]

theorem pending?_withCall_self (session : Session α ε σ) (id : String) (pending : Pending α ε) :
    (session.withCall id pending).pending? id = some pending := by
  simp [withCall, pending?]

theorem pending?_withCall_of_ne (session : Session α ε σ) {id other : String} (pending : Pending α ε)
    (h : other ≠ id) : (session.withCall id pending).pending? other = session.pending? other := by
  rw [← session.pending?_without_of_ne h]
  simp [withCall, pending?, h.symm]

section

variable {s : Session α ε σ} {s' : Session α' ε' σ'} {P : String → Option (Pending α ε) → Option (Pending α' ε') → Prop}

/-- What `P` says of the calls that wait in two sessions it says of them after one has been forgotten in both. -/
theorem calls_without (h : ∀ id, P id (s.pending? id) (s'.pending? id)) {id : String} (hn : P id none none)
    (other : String) : P other ((s.without id).pending? other) ((s'.without id).pending? other) := by
  by_cases ho : other = id
  · rw [ho, s.pending?_without_self, s'.pending?_without_self]
    exact hn
  · rw [s.pending?_without_of_ne ho, s'.pending?_without_of_ne ho]
    exact h other

theorem calls_withCall (h : ∀ id, P id (s.pending? id) (s'.pending? id)) {id : String} {pending : Pending α ε}
    {pending' : Pending α' ε'} (hs : P id (some pending) (some pending')) (other : String) :
    P other ((s.withCall id pending).pending? other) ((s'.withCall id pending').pending? other) := by
  by_cases ho : other = id
  · rw [ho, s.pending?_withCall_self, s'.pending?_withCall_self]
    exact hs
  · rw [s.pending?_withCall_of_ne pending ho, s'.pending?_withCall_of_ne pending' ho]
    exact h other

end

end Session

/-! ## How attempts begin -/

namespace Session

/-- An attempt asks for admission. If that panics or the attempt is refused, it is called off; else it
goes on. -/
def request (c : Circuit σ) (session : Session α ε σ) (callOff : Session α ε σ → Session α ε σ)
    (goOn : Session α ε σ → Report α ε σ) : Report α ε σ :=
  let asked := c.admission session.memory session.world
  match asked.result with
  | .error text => (callOff (session.having asked)).report (.panicked text) asked.notes
  | .ok (some r) => (callOff (session.having asked)).report (.refused (.rejected r)) asked.notes
  | .ok none => preceded asked.notes (goOn (session.having asked))

/-- What an operation does that runs, until its outcome has been recorded. -/
def running (c : Circuit σ) (move : ClockMove → σ → σ) (outcome : Outcome α ε)
    (during : List (Action α ε)) (session : Session α ε σ) : Report α ε σ :=
  let (nested, session) := performAll c move during session
  let settled := session.settle c outcome
  .mk settled.answer [.started] nested settled.notes settled.session

theorem perform_running (session : Session α ε σ) (outcome : Outcome α ε) (during : List (Action α ε)) :
    perform c move (.attempt .running outcome during) session =
      session.request c id (running c move outcome during) := by
  rw [perform, call_eq, request]
  dsimp only
  cases (c.admission session.memory session.world).result with
  | error text => rfl
  | ok reply => cases reply <;> rfl

/-- An operation that is admitted runs, and its outcome is recorded. -/
theorem perform_running_of_admitted {session : Session α ε σ}
    (h : (c.admission session.memory session.world).result = .ok none) (outcome : Outcome α ε)
    (during : List (Action α ε)) :
    let asked := c.admission session.memory session.world
    let ended := performAll c move during (session.having asked)
    let settled := ended.2.settle c outcome
    perform c move (.attempt .running outcome during) session =
      .mk settled.answer (asked.notes ++ [.started]) ended.1 settled.notes settled.session := by
  rw [perform_running, request, h]
  rfl

theorem perform_constant (session : Session α ε σ) (outcome : Outcome α ε) (during : List (Action α ε)) :
    perform c move (.attempt .constant outcome during) session =
      session.request c id fun session => session.settle c outcome := by
  rw [perform, call_eq, request]
  dsimp only
  cases (c.admission session.memory session.world).result with
  | error text => rfl
  | ok reply => cases reply <;> rfl

theorem preceded_append (early late : List Note) (report : Report α ε σ) :
    preceded (early ++ late) report = preceded early (preceded late report) := by
  cases report
  simp [preceded]

theorem poll_prepared {session : Session α ε σ} {id : String} {pending : Pending α ε}
    (h : session.pending? id = some pending) (ha : pending.admitted = false) :
    session.poll c id = session.request c (·.without id) fun session =>
      preceded [.started] (session.proceed c id pending) := by
  rw [poll, h, call_eq, request]
  simp only [ha]
  cases (c.admission session.memory session.world).result with
  | error text => rfl
  | ok reply =>
    cases reply with
    | some r => rfl
    | none => exact preceded_append _ _ _

/-- A call that is admitted when it is polled first, and has no outcome yet, waits. -/
theorem poll_waiting {session : Session α ε σ} {id : String} (h : session.pending? id = some ⟨false, none⟩)
    (hr : (c.admission session.memory session.world).result = .ok none) :
    session.poll c id =
      .mk .waiting ((c.admission session.memory session.world).notes ++ [.started]) [] []
        ((session.having (c.admission session.memory session.world)).withCall id ⟨true, none⟩) := by
  rw [poll_prepared h rfl, request, hr]
  rfl

theorem perform_resolve {session : Session α ε σ} {id : String} {pending : Pending α ε}
    (h : session.pending? id = some pending) (outcome : Outcome α ε) :
    perform c move (.resolve id outcome) session =
      (session.withCall id { pending with outcome := some outcome }).report .resolved [] := by
  simp only [perform, h]

theorem poll_admitted {session : Session α ε σ} {id : String} {pending : Pending α ε}
    (h : session.pending? id = some pending) (ha : pending.admitted = true) :
    session.poll c id = session.proceed c id pending := by
  rw [poll, h]
  simp only [ha, if_true]

end Session

theorem Session.performAll_append (early late : List (Action α ε)) (session : Session α ε σ) :
    performAll c move (early ++ late) session =
      ((performAll c move early session).1 ++ (performAll c move late (performAll c move early session).2).1,
        (performAll c move late (performAll c move early session).2).2) := by
  induction early generalizing session with
  | nil => rfl
  | cons action early ih =>
    rw [List.cons_append, performAll, performAll, ih]
    rfl

/-! ## What actions speak of -/

mutual

/-- The names under which an action prepares, polls, resolves or gives up calls. -/
def Action.ids : Action α ε → List String
  | .attempt _ _ during => idsAll during
  | .repeated _ actions => idsAll actions
  | .prepare id | .poll id | .resolve id _ | .abandon id => [id]
  | _ => []

/-- The names in actions in a row. -/
def Action.idsAll : List (Action α ε) → List String
  | [] => []
  | action :: actions => action.ids ++ idsAll actions

end

mutual

/-- The names under which an action polls calls. -/
def Action.polled : Action α ε → List String
  | .attempt _ _ during => polledAll during
  | .repeated _ actions => polledAll actions
  | .poll id => [id]
  | _ => []

/-- The names of the calls polled in actions in a row. -/
def Action.polledAll : List (Action α ε) → List String
  | [] => []
  | action :: actions => action.polled ++ polledAll actions

end

/-- The action prepares, resolves or gives up a call under a hidden name. -/
def Action.hides (hidden : String → Bool) : Action α ε → Bool
  | .prepare id | .resolve id _ | .abandon id => hidden id
  | _ => false

mutual

/-- The action without all that is done to calls under hidden names. -/
def Action.bare (hidden : String → Bool) : Action α ε → Action α ε
  | .attempt form outcome during => .attempt form outcome (bareAll hidden during)
  | .repeated times actions => .repeated times (bareAll hidden actions)
  | action => action

/-- The actions without those that are done to calls under hidden names. -/
def Action.bareAll (hidden : String → Bool) : List (Action α ε) → List (Action α ε)
  | [] => []
  | action :: actions =>
    if action.hides hidden then bareAll hidden actions else action.bare hidden :: bareAll hidden actions

end

/-- What is done to calls under hidden names shows nowhere else. -/
theorem Session.perform_of_hides (c : Circuit σ) (move : ClockMove → σ → σ) {hidden : String → Bool}
    {action : Action α ε} (h : action.hides hidden = true) (session : Session α ε σ) :
    let report := perform c move action session
    report.timeline = [] ∧ report.told = [] ∧ report.session.memory = session.memory ∧
      report.session.world = session.world ∧
      ∀ id, hidden id = false → report.session.pending? id = session.pending? id := by
  intro report
  have hother {id other : String} (hid : hidden id = true) (ho : hidden other = false) : other ≠ id := by
    rintro rfl
    rw [hid] at ho
    cases ho
  cases action with
  | prepare id =>
    exact ⟨timeline_report _ _ _, rfl, rfl, rfl, fun other ho => pending?_withCall_of_ne _ _ (hother h ho)⟩
  | resolve id outcome =>
    dsimp only [report]
    rw [perform]
    cases session.pending? id with
    | none => exact ⟨timeline_report _ _ _, rfl, rfl, rfl, fun other _ => rfl⟩
    | some pending =>
      exact ⟨timeline_report _ _ _, rfl, rfl, rfl, fun other ho => pending?_withCall_of_ne _ _ (hother h ho)⟩
  | abandon id =>
    dsimp only [report]
    rw [perform]
    cases session.pending? id with
    | none => exact ⟨timeline_report _ _ _, rfl, rfl, rfl, fun other _ => rfl⟩
    | some pending =>
      exact ⟨timeline_report _ _ _, rfl, rfl, rfl, fun other ho => pending?_without_of_ne _ (hother h ho)⟩
  | _ => cases h

/-! ### Without hidden names -/

mutual

theorem Action.bare_eq_self {hidden : String → Bool} : ∀ action : Action α ε,
    (∀ id ∈ action.ids, hidden id = false) → action.bare hidden = action ∧ action.hides hidden = false
  | .attempt form outcome during, h => ⟨by rw [bare, bareAll_eq_self during h], rfl⟩
  | .repeated times actions, h => ⟨by rw [bare, bareAll_eq_self actions h], rfl⟩
  | .prepare id, h | .resolve id _, h | .abandon id, h => ⟨rfl, h id (List.mem_singleton_self id)⟩
  | .poll _, _ => ⟨rfl, rfl⟩
  | .kind, _ | .isKind _, _ | .forceOpen, _ | .forceClose, _ | .snapshot, _ | .look, _ | .move _, _ => ⟨rfl, rfl⟩

theorem Action.bareAll_eq_self {hidden : String → Bool} : ∀ actions : List (Action α ε),
    (∀ id ∈ idsAll actions, hidden id = false) → bareAll hidden actions = actions
  | [], _ => rfl
  | action :: actions, h => by
    obtain ⟨hfirst, hrest⟩ := List.forall_mem_append.1 h
    obtain ⟨hbare, hhides⟩ := bare_eq_self action hfirst
    rw [bareAll, hhides, if_neg Bool.false_ne_true, hbare, bareAll_eq_self actions hrest]

end

end CircuitBreaker
