/-
The turns of a run, which are the calls on a circuit breaker that no other call interrupts. Every
turn has one shape, `call_apply`: it reads the clocks, moves to a state if there is one to move to,
and then concludes without another move. From it follows what a turn does in every state and in all
surroundings: where it leads, how far it counts, which listeners it runs, when it panics and when
it starts an operation.
-/
import CircuitBreaker.Proofs.Call
import CircuitBreaker.Session

namespace CircuitBreaker

/-! ## Turns -/

/-- A call on a circuit breaker that no other interrupts. An attempt is known by a number and takes
two turns, with any others between them; its operation starts in the first one. -/
inductive Turn (α ε : Type)
  | admission (attempt : Nat) (form : Form)
  | recording (attempt : Nat) (outcome : Except ε α)
  | kind
  | snapshot
  | forceOpen
  | forceClose

namespace Turn

variable {α ε σ : Type}

/-- What an attempt goes on with after its admission, which may have been refused. -/
def respond (form : Form) : Option (Rejection ε) → Call ε σ (Answer α ε)
  | some r => pure (.refused (.rejected r))
  | none => do
    if form = .running then
      Call.note .started
    return .waiting

/-- The call that is made, with what its client gets to know. An attempt that is admitted waits for
its outcome. -/
def call (c : Circuit σ) : Turn α ε → Call ε σ (Answer α ε)
  | admission _ form => c.admission >>= respond form
  | recording _ outcome => do return Session.answerOf (← c.record outcome)
  | kind => do return .kind (← c.kind)
  | snapshot => do return .snapshot (← c.snapshot)
  | forceOpen => do
    c.forceOpen
    return .done
  | forceClose => do
    c.forceClose
    return .done

/-- Whether the circuit is opened or closed by hand. -/
def byHand : Turn α ε → Bool
  | forceOpen | forceClose => true
  | _ => false

/-- Whether the turn begins with a refresh. -/
def refreshes : Turn α ε → Bool
  | admission _ _ | kind | snapshot => true
  | _ => false

/-- Whether a failure is recorded. -/
def fails : Turn α ε → Bool
  | recording _ (.error _) => true
  | _ => false

/-- The attempt that the turn belongs to. -/
def attempt? : Turn α ε → Option Nat
  | admission attempt _ | recording attempt _ => some attempt
  | _ => none

/-- What is remembered right before the move: a failure is stored, and counted if the circuit is
closed. -/
def primed (memory : Memory ε) : Turn α ε → Memory ε
  | recording _ (.error failure) =>
    { memory with lastFailure := some failure, failures := memory.state.countAfter memory.failures }
  | _ => memory

/-- What is logged before the move. -/
def lead (state : State) : Turn α ε → List Note
  | recording _ _ => state.lateNotes
  | _ => []

theorem byHand_of_refreshes {turn : Turn α ε} (h : turn.refreshes = true) : turn.byHand = false := by
  cases turn with
  | forceOpen | forceClose => cases h
  | _ => rfl

theorem fails_of_refreshes {turn : Turn α ε} (h : turn.refreshes = true) : turn.fails = false := by
  cases turn with
  | recording => cases h
  | _ => rfl

@[simp] theorem state_primed (turn : Turn α ε) (memory : Memory ε) :
    (turn.primed memory).state = memory.state := by
  unfold primed; split <;> rfl

@[simp] theorem fired_lead (turn : Turn α ε) (state : State) : fired (turn.lead state) = [] := by
  unfold lead
  split
  · exact state.fired_lateNotes
  · rfl

end Turn

namespace Circuit

variable {α ε σ : Type} (c : Circuit σ)

/-! ## The shape of a turn -/

/-- The state that a turn moves to, if it moves to one. -/
def target (memory : Memory ε) (world : σ) : Turn α ε → Option State
  | .admission _ _ | .kind | .snapshot =>
    memory.state.refresh (c.world.now world).1 c.settings.cooldown
  | .recording _ (.ok _) => memory.state.onSuccess
  | .recording _ (.error _) =>
    (memory.state.onFailure memory.failures c.settings.threshold (c.world.now world).1
      (c.wallAfterNow world)).2
  | .forceOpen => some (.opened (c.world.now world).1 (c.wallAfterNow world))
  | .forceClose => some .closed

/-- The surroundings right before the move: the clocks have been read. -/
def clocked (world : σ) : Turn α ε → σ
  | .admission _ _ | .kind | .snapshot => (c.world.now world).2
  | .recording _ (.error _) | .forceOpen => (c.world.wall (c.world.now world).2).2
  | .recording _ (.ok _) | .forceClose => world

/-- What is left to do after the move. -/
def conclude : Turn α ε → Call ε σ (Answer α ε)
  | .admission _ form => c.decision >>= Turn.respond form
  | .recording _ outcome => pure (Session.answerOf (outcome.mapError .failed))
  | .kind => do return .kind (← Call.memory).state.kind
  | .snapshot => do return .snapshot (← c.view)
  | .forceOpen | .forceClose => pure .done

/-- Recording moves and answers, after the line for an outcome that comes too late. -/
theorem record_apply (attempt : Nat) (outcome : Except ε α) (memory : Memory ε) (world : σ) :
    c.record outcome memory world =
      ((c.transition? (c.target memory world (.recording attempt outcome)) >>=
          fun _ => pure (outcome.mapError .failed)) ((Turn.recording attempt outcome).primed memory)
        (c.clocked world (.recording attempt outcome))).preceded memory.state.lateNotes := by
  cases outcome with
  | ok a => rw [record_ok_apply]; rfl
  | error failure =>
    rw [record_error_apply]
    congr 1
    exact Call.bind_of_preceded _
      ((c.recordFailure_apply failure memory world).trans (Call.preceded_nil _).symm)

end Circuit

namespace Turn

variable {α ε σ : Type} (c : Circuit σ)

/-- Every turn reads the clocks, moves, and concludes. -/
theorem call_apply (turn : Turn α ε) (memory : Memory ε) (world : σ) :
    turn.call c memory world =
      ((c.transition? (c.target memory world turn) >>= fun _ => c.conclude turn)
        (turn.primed memory) (c.clocked world turn)).preceded (turn.lead memory.state) := by
  cases turn with
  | admission attempt form =>
    show ((c.refresh >>= fun _ => c.decision) >>= respond form) memory world = _
    rw [bind_assoc]; rfl
  | recording attempt outcome =>
    show (c.record outcome >>= fun r => pure (Session.answerOf r)) memory world = _
    rw [Call.bind_of_preceded _ (c.record_apply attempt outcome memory world), bind_assoc]
    rfl
  | kind =>
    show ((c.refresh >>= fun _ => Call.memory >>= fun m => pure m.state.kind) >>=
      fun k => pure (Answer.kind k)) memory world = _
    rw [bind_assoc]; rfl
  | snapshot =>
    show ((c.refresh >>= fun _ => c.view) >>= fun s => pure (Answer.snapshot s)) memory world = _
    rw [bind_assoc]; rfl
  | forceOpen => rfl
  | forceClose => rfl

/-! ## What a turn does -/

theorem quiet_respond (form : Form) (reply : Option (Rejection ε)) :
    (respond form reply : Call ε σ (Answer α ε)).Quiet := by
  cases reply with
  | some r => exact Call.quiet_pure _
  | none =>
    cases form with
    | running => exact (Call.quiet_note rfl).bind fun _ => Call.quiet_pure _
    | constant => exact Call.quiet_pure _

/-- A turn does all that matters before it concludes. -/
theorem quiet_conclude (turn : Turn α ε) : (c.conclude turn).Quiet := by
  cases turn with
  | admission attempt form => exact c.quiet_decision.bind fun reply => quiet_respond form reply
  | recording attempt outcome => exact Call.quiet_pure _
  | kind => exact Call.quiet_memory.bind fun _ => Call.quiet_pure _
  | snapshot => exact c.quiet_view.bind fun _ => Call.quiet_pure _
  | forceOpen => exact Call.quiet_pure _
  | forceClose => exact Call.quiet_pure _

theorem core_call (turn : Turn α ε) (memory : Memory ε) (world : σ) :
    (turn.call c memory world).memory.core =
      ((turn.primed memory).move (c.target memory world turn)).core := by
  rw [call_apply]
  refine (Call.bind_quiet (fun _ => quiet_conclude c turn) _ _).1.trans ?_
  rw [c.transition?_apply]

/-- The state after a turn is the one that it moves to, if there is one. -/
theorem state_call (turn : Turn α ε) (memory : Memory ε) (world : σ) :
    (turn.call c memory world).memory.state = (c.target memory world turn).getD memory.state := by
  have h := congrArg Prod.fst (core_call c turn memory world)
  simp only [Memory.core, Memory.state_move, state_primed] at h
  exact h

/-- A turn runs the listener of the state that it moves to, and no other. -/
theorem fired_call (turn : Turn α ε) (memory : Memory ε) (world : σ) :
    fired (turn.call c memory world).notes = (c.target memory world turn).toList.map State.kind := by
  rw [call_apply]
  show fired (_ ++ _) = _
  rw [fired_append, fired_lead, List.nil_append, (Call.bind_quiet (fun _ => quiet_conclude c turn) _ _).2.1,
    c.transition?_apply, Memory.fired_moveNotes]

/-- A turn that panics does so in the listener of the state that it moves to, with which it ends. -/
theorem notes_of_panic {turn : Turn α ε} {memory : Memory ε} {world : σ} {text : String}
    (h : (turn.call c memory world).result = .error text) :
    ∃ next, c.target memory world turn = some next ∧
      (turn.call c memory world).notes.getLast? = some (.notified next.kind) := by
  rw [call_apply] at h ⊢
  -- the conclusion is quiet, so that the panic is one of the move
  obtain ⟨hr, hn⟩ := (Call.bind_quiet (fun _ => quiet_conclude c turn) _ _).2.2 text h
  rw [c.transition?_apply] at hr hn
  cases ht : c.target memory world turn with
  | none => rw [ht] at hr; cases hr
  | some next =>
    refine ⟨next, rfl, ?_⟩
    rw [ht] at hn
    show List.getLast? (_ ++ _) = _
    rw [hn]
    simp [Memory.moveNotes]

theorem waiting_of_started_conclude {attempt : Nat} {form : Form} {memory : Memory ε} {world : σ}
    (h : Note.started ∈ (c.conclude (admission attempt form : Turn α ε) memory world).notes) :
    (c.conclude (admission attempt form : Turn α ε) memory world).result = .ok .waiting := by
  rcases Call.mem_notes_bind h with h | ⟨reply, _, _, _, h, hr⟩
  · cases ha : memory.state.admits with
    | true => rw [c.decision_of_admits ha] at h; cases h
    | false => rw [c.decision_of_rejects ha] at h; simp at h
  · refine hr.trans ?_
    cases reply with
    | some r => cases h
    | none => cases form <;> rfl

/-- An operation starts in the turn that admits its attempt, and in no other. -/
theorem waiting_of_started {turn : Turn α ε} {memory : Memory ε} {world : σ}
    (h : Note.started ∈ (turn.call c memory world).notes) :
    ∃ attempt form, turn = .admission attempt form ∧
      (turn.call c memory world).result = .ok .waiting := by
  rw [call_apply] at h ⊢
  -- neither the lead nor the move starts anything, which leaves the conclusion of an admission
  rcases List.mem_append.1 h with h | h
  · unfold lead State.lateNotes at h
    split at h
    · split at h <;> simp at h
    · cases h
  · rcases Call.mem_notes_bind h with h | ⟨_, after, world', _, h, hr⟩
    · rw [c.transition?_apply] at h
      exact absurd h (Memory.started_notMem_moveNotes _ _)
    · rw [show (Ended.preceded _ _).result = _ from hr]
      cases turn with
      | admission attempt form => exact ⟨attempt, form, rfl, waiting_of_started_conclude c h⟩
      | _ => cases h

/-- An attempt is refused in an open state that the refresh leaves as it is. -/
theorem refused_of_opened {memory : Memory ε} {world : σ} {entered : Instant} {wall : Timestamp}
    (hs : memory.state = .opened entered wall)
    (hc : ¬ c.settings.cooldown ≤ (c.world.now world).1.since entered) (attempt : Nat) (form : Form) :
    ((admission attempt form : Turn α ε).call c memory world).result =
      .ok (.refused (.rejected ⟨c.settings.name, memory.lastFailure,
        c.settings.cooldown - (c.world.now (c.world.now world).2).1.since entered⟩)) := by
  have ht : c.target memory world (admission attempt form : Turn α ε) = none := by
    simp [Circuit.target, hs, State.refresh, hc]
  have ha : memory.state.admits = false := by rw [hs]; rfl
  have hd := c.decision_of_rejects ha (c.world.now world).2
  rw [hs] at hd
  rw [call_apply, ht]
  show ((c.decision >>= respond form) memory (c.world.now world).2).result = _
  rw [Call.bind_ok (by rw [hd])]
  rfl

end Turn

/-! ## The table of the states -/

/-- All that a turn can do to the state and the count of failures, where the clocks read `now` and
`wall`. -/
inductive Shift {α ε σ : Type} (c : Circuit σ) (now : Instant) (wall : Timestamp) :
    Turn α ε → State × UInt32 → State × UInt32 → Prop
  | waits {turn state n} (h : turn.refreshes = true)
      (hs : state.refresh now c.settings.cooldown = none) : Shift c now wall turn (state, n) (state, n)
  | promotes {turn entered opened n} (h : turn.refreshes = true)
      (hc : c.settings.cooldown ≤ now.since entered) :
      Shift c now wall turn (.opened entered opened, n) (.halfOpen, n)
  | passes {attempt a state n} (h : state ≠ .halfOpen) :
      Shift c now wall (.recording attempt (.ok a)) (state, n) (state, n)
  | recovers {attempt a n} :
      Shift c now wall (.recording attempt (.ok a)) (.halfOpen, n) (.closed, 0)
  | counts {attempt e n} (h : State.bump n < c.settings.threshold) :
      Shift c now wall (.recording attempt (.error e)) (.closed, n) (.closed, State.bump n)
  | trips {attempt e n} (h : c.settings.threshold ≤ State.bump n) :
      Shift c now wall (.recording attempt (.error e)) (.closed, n) (.opened now wall, State.bump n)
  | relapses {attempt e n} :
      Shift c now wall (.recording attempt (.error e)) (.halfOpen, n) (.opened now wall, n)
  | straggles {attempt e entered opened n} :
      Shift c now wall (.recording attempt (.error e)) (.opened entered opened, n)
        (.opened entered opened, n)
  | forcesOpen {state n} : Shift c now wall .forceOpen (state, n) (.opened now wall, n)
  | forcesClosed {state n} : Shift c now wall .forceClose (state, n) (.closed, 0)

section

variable {α ε σ : Type} (c : Circuit σ)

theorem shift_refresh (now : Instant) (wall : Timestamp) {turn : Turn α ε} (h : turn.refreshes = true)
    (memory : Memory ε) :
    Shift c now wall turn memory.core
      (memory.move (memory.state.refresh now c.settings.cooldown)).core := by
  obtain ⟨state, n, last⟩ := memory
  cases state with
  | closed => exact .waits h rfl
  | halfOpen => exact .waits h rfl
  | opened entered opened =>
    by_cases hc : c.settings.cooldown ≤ now.since entered
    · rw [show State.refresh now c.settings.cooldown (.opened entered opened) = some .halfOpen from if_pos hc]
      exact .promotes h hc
    · have hs : State.refresh now c.settings.cooldown (.opened entered opened) = none := if_neg hc
      rw [hs]
      exact .waits h hs

/-- A turn keeps to the table. -/
theorem shift_call (turn : Turn α ε) (memory : Memory ε) (world : σ) :
    Shift c (c.world.now world).1 (c.wallAfterNow world) turn memory.core
      (turn.call c memory world).memory.core := by
  rw [turn.core_call]
  cases turn with
  | admission attempt form => exact shift_refresh c _ _ rfl memory
  | kind => exact shift_refresh c _ _ rfl memory
  | snapshot => exact shift_refresh c _ _ rfl memory
  | forceOpen => exact .forcesOpen
  | forceClose => exact .forcesClosed
  | recording attempt outcome =>
    obtain ⟨state, n, last⟩ := memory
    cases outcome with
    | ok a =>
      cases state with
      | closed => exact .passes nofun
      | halfOpen => exact .recovers
      | opened entered opened => exact .passes nofun
    | error failure =>
      cases state with
      | halfOpen => exact .relapses
      | opened entered opened => exact .straggles
      | closed =>
        -- here the threshold decides
        show Shift c _ _ _ _ (Memory.move _ (if _ then _ else _)).core
        split
        · next hn => exact .trips hn
        · next hn => exact .counts (UInt32.not_le.1 hn)

end

end CircuitBreaker
