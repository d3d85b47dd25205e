/-
What calls leave behind: what is remembered after a move to another state and which listener runs
in it, what two calls in a row do, and the equation of each call on a circuit breaker.
-/
import CircuitBreaker.Circuit

namespace CircuitBreaker

/-! ## Moving to a state -/

/-- What is remembered but for the failure observed last. -/
def Memory.core {ε : Type} (memory : Memory ε) : State × UInt32 := (memory.state, memory.failures)

/-- What is remembered after moving to a state, if there is one to move to. -/
def Memory.move {ε : Type} (memory : Memory ε) : Option State → Memory ε
  | some next => memory.install next
  | none => memory

/-- What happens in such a move: it is logged, and then the listener runs. -/
def Memory.moveNotes {ε : Type} (memory : Memory ε) : Option State → List Note
  | some next =>
    [.logged (.ofTransition memory.state.kind next.kind (memory.install next).failures),
      .notified next.kind]
  | none => []

/-- The kind of state whose listener runs, if one does. -/
def Note.fired? : Note → Option Kind
  | notified kind => some kind
  | _ => none

/-- The listeners that run in the course of what happens, in the order of time. -/
def fired (notes : List Note) : List Kind := notes.filterMap Note.fired?

@[simp] theorem fired_append (early late : List Note) : fired (early ++ late) = fired early ++ fired late :=
  List.filterMap_append

/-- The count of failures after one more, which counts in a closed state only. -/
def State.countAfter (state : State) (failures : UInt32) : UInt32 :=
  if state = .closed then bump failures else failures

theorem State.fst_onFailure (state : State) (failures threshold : UInt32) (now : Instant) (wall : Timestamp) :
    (state.onFailure failures threshold now wall).1 = state.countAfter failures := by
  cases state <;> rfl

/-- What is logged before an outcome is recorded: an open state takes it too late. -/
def State.lateNotes (state : State) : List Note :=
  if state.admits then [] else [.logged .lateOutcome]

@[simp] theorem State.fired_lateNotes (state : State) : fired state.lateNotes = [] := by
  unfold lateNotes; split <;> rfl

namespace Memory

variable {ε : Type}

@[simp] theorem state_move (memory : Memory ε) (target : Option State) :
    (memory.move target).state = target.getD memory.state := by
  cases target <;> rfl

@[simp] theorem fired_moveNotes (memory : Memory ε) (target : Option State) :
    fired (memory.moveNotes target) = target.toList.map State.kind := by
  cases target <;> rfl

theorem started_notMem_moveNotes (memory : Memory ε) (target : Option State) :
    Note.started ∉ memory.moveNotes target := by
  cases target <;> simp [moveNotes]

end Memory

namespace Call

variable {ε σ α β γ : Type}

/-! ## Calls in a row -/

theorem map_id (call : Call ε σ α) : id <$> call = call := by
  funext memory world
  cases hc : call memory world with
  | mk result after world' notes =>
    show (call >>= fun a => pure (id a)) memory world = _
    cases result with
    | error text => rw [bind_panic (by rw [hc]), hc]
    | ok a => rw [bind_ok (by rw [hc]), hc]; simp [Ended.preceded]

theorem andThen_assoc (call : Call ε σ α) (next : α → Call ε σ β) (last : β → Call ε σ γ) :
    call >>= next >>= last = call >>= fun a => next a >>= last := by
  funext memory world
  cases h : (call memory world).result with
  | error text =>
    have hb : (call >>= next) memory world = _ := bind_panic h
    rw [bind_panic h, bind_panic (by rw [hb]), hb]
  | ok a =>
    have hb : (call >>= next) memory world = _ := bind_ok h
    rw [bind_ok h]
    -- the call in the middle may still panic
    cases hn : (next a (call memory world).memory (call memory world).world).result with
    | error text => rw [bind_panic hn, bind_panic (by rw [hb]; exact hn), hb]; rfl
    | ok b => rw [bind_ok hn, bind_ok (by rw [hb]; exact hn), hb, preceded_preceded]; rfl

instance : LawfulMonad (Call ε σ) := LawfulMonad.mk' _ map_id (fun _ _ => rfl) andThen_assoc

/-- What happens before a call happens before it and any other that follows. -/
theorem bind_of_preceded {call call' : Call ε σ α} (next : α → Call ε σ β) {memory memory' : Memory ε}
    {world world' : σ} {before : List Note}
    (h : call memory world = (call' memory' world').preceded before) :
    (call >>= next) memory world = ((call' >>= next) memory' world').preceded before := by
  cases hr : (call' memory' world').result with
  | error text => rw [bind_panic hr, bind_panic (by rw [h]; exact hr), h]; rfl
  | ok a => rw [bind_ok hr, bind_ok (by rw [h]; exact hr), h, preceded_preceded]; rfl

/-- What happens in two calls happens in the first one, or in the second one after the first. -/
theorem mem_notes_bind {call : Call ε σ α} {next : α → Call ε σ β} {memory : Memory ε} {world : σ}
    {n : Note} (hn : n ∈ ((call >>= next) memory world).notes) :
    n ∈ (call memory world).notes ∨ ∃ a memory' world',
      (call memory world).result = .ok a ∧ n ∈ (next a memory' world').notes ∧
      ((call >>= next) memory world).result = (next a memory' world').result := by
  cases h : (call memory world).result with
  | error text => rw [bind_panic h] at hn; exact Or.inl hn
  | ok a =>
    rw [bind_ok h] at hn ⊢
    rcases List.mem_append.1 hn with hn | hn
    · exact Or.inl hn
    · exact Or.inr ⟨a, _, _, rfl, hn, rfl⟩

/-! ## Calls that stay where they are -/

/-- The call moves to no state and counts no failure, runs no listener and does not panic. -/
structure Quiet (call : Call ε σ α) : Prop where
  core : ∀ memory world, (call memory world).memory.core = memory.core
  fired : ∀ memory world, fired (call memory world).notes = []
  returns : ∀ memory world, ∃ a, (call memory world).result = .ok a

theorem quiet_pure (a : α) : Quiet (pure a : Call ε σ α) :=
  ⟨fun _ _ => rfl, fun _ _ => rfl, fun _ _ => ⟨a, rfl⟩⟩

theorem quiet_memory : Quiet (memory : Call ε σ (Memory ε)) :=
  ⟨fun _ _ => rfl, fun _ _ => rfl, fun memory _ => ⟨memory, rfl⟩⟩

theorem quiet_read (look : σ → α × σ) : Quiet (read look : Call ε σ α) :=
  ⟨fun _ _ => rfl, fun _ _ => rfl, fun _ world => ⟨(look world).1, rfl⟩⟩

theorem quiet_note {n : Note} (hn : n.fired? = none) : Quiet (note n : Call ε σ Unit) :=
  ⟨fun _ _ => rfl, fun _ _ => by show fired [n] = []; simp [CircuitBreaker.fired, hn], fun _ _ => ⟨(), rfl⟩⟩

theorem quiet_update {change : Memory ε → Memory ε} (h : ∀ memory, (change memory).core = memory.core) :
    Quiet (update change : Call ε σ Unit) :=
  ⟨fun memory _ => h memory, fun _ _ => rfl, fun _ _ => ⟨(), rfl⟩⟩

theorem Quiet.bind {call : Call ε σ α} {next : α → Call ε σ β} (hc : Quiet call)
    (hn : ∀ a, Quiet (next a)) : Quiet (call >>= next) := by
  refine ⟨fun memory world => ?_, fun memory world => ?_, fun memory world => ?_⟩
  all_goals
    obtain ⟨a, ha⟩ := hc.returns memory world
    rw [bind_ok ha]
  · exact ((hn a).core _ _).trans (hc.core _ _)
  · show CircuitBreaker.fired (_ ++ _) = []
    rw [fired_append, hc.fired, (hn a).fired, List.append_nil]
  · exact (hn a).returns _ _

/-- A call that a quiet one follows: the second adds nothing to where the first one has led and to
the listeners it has run, and both panic only where the first one does. -/
theorem bind_quiet {call : Call ε σ α} {next : α → Call ε σ β} (hn : ∀ a, Quiet (next a))
    (memory : Memory ε) (world : σ) :
    ((call >>= next) memory world).memory.core = (call memory world).memory.core ∧
    CircuitBreaker.fired ((call >>= next) memory world).notes =
      CircuitBreaker.fired (call memory world).notes ∧
    ∀ text, ((call >>= next) memory world).result = .error text →
      (call memory world).result = .error text ∧
      ((call >>= next) memory world).notes = (call memory world).notes := by
  cases h : (call memory world).result with
  | error panic =>
    rw [bind_panic h]
    refine ⟨rfl, rfl, fun text ht => ?_⟩
    cases ht; exact ⟨rfl, rfl⟩
  | ok a =>
    rw [bind_ok h]
    refine ⟨(hn a).core _ _, ?_, fun text ht => ?_⟩
    · show CircuitBreaker.fired (_ ++ _) = _
      rw [fired_append, (hn a).fired, List.append_nil]
    · -- the second call returns, so there is no panic to speak of
      obtain ⟨b, hb⟩ := (hn a).returns (call memory world).memory (call memory world).world
      rw [show (Ended.preceded _ _).result = _ from hb] at ht
      cases ht

end Call

namespace Circuit

variable {α ε σ : Type} (c : Circuit σ)

/-! ## The calls on a circuit breaker -/

/-- What the listener does in a move to a state, if there is one to move to: the text of its panic,
and the surroundings after it. -/
def told (world : σ) : Option State → Option String × σ
  | some next => c.world.notify next.kind world
  | none => (none, world)

/-- The wall clock as it reads right after the monotonic one. -/
def wallAfterNow (world : σ) : Timestamp := (c.world.wall (c.world.now world).2).1

theorem transition?_apply (target : Option State) (memory : Memory ε) (world : σ) :
    c.transition? target memory world =
      ⟨Call.panicIf (c.told world target).1, memory.move target, (c.told world target).2,
        memory.moveNotes target⟩ := by
  cases target <;> rfl

theorem recordFailure_apply (failure : ε) (memory : Memory ε) (world : σ) :
    c.recordFailure failure memory world =
      c.transition?
        (memory.state.onFailure memory.failures c.settings.threshold (c.world.now world).1
          (c.wallAfterNow world)).2
        { memory with
          lastFailure := some failure
          failures := memory.state.countAfter memory.failures }
        (c.world.wall (c.world.now world).2).2 := by
  rw [← State.fst_onFailure _ _ c.settings.threshold (c.world.now world).1 (c.wallAfterNow world)]
  rfl

theorem record_ok_apply (a : α) (memory : Memory ε) (world : σ) :
    c.record (.ok a) memory world =
      ((c.recordSuccess >>= fun _ => pure (.ok a)) memory world).preceded
        memory.state.lateNotes := by
  cases h : memory.state.admits <;> simp [record, State.lateNotes, h]

theorem record_error_apply (failure : ε) (memory : Memory ε) (world : σ) :
    c.record (.error failure : Except ε α) memory world =
      ((c.recordFailure failure >>= fun _ => pure (.error (.failed failure))) memory world).preceded
        memory.state.lateNotes := by
  cases h : memory.state.admits <;> simp [record, State.lateNotes, h]

/-! ## What follows a refresh -/

theorem decision_of_admits {memory : Memory ε} (h : memory.state.admits = true) (world : σ) :
    c.decision memory world = ⟨.ok none, { memory with lastFailure := none }, world, []⟩ := by
  show (if memory.state.admits = true then _ else _ : Call ε σ _) memory world = _
  rw [if_pos h]; rfl

theorem decision_of_rejects {memory : Memory ε} (h : memory.state.admits = false) (world : σ) :
    let remaining := (memory.state.remaining (c.world.now world).1 c.settings.cooldown).getD .zero
    c.decision memory world =
      ⟨.ok (some ⟨c.settings.name, memory.lastFailure, remaining⟩), memory, (c.world.now world).2,
        [.logged (.rejecting remaining)]⟩ := by
  show (if memory.state.admits = true then _ else _ : Call ε σ _) memory world = _
  rw [if_neg (by rw [h]; decide)]; rfl

theorem quiet_decision : (c.decision : Call ε σ _).Quiet := by
  refine Call.quiet_memory.bind fun memory => ?_
  split
  · refine Call.Quiet.bind (Call.quiet_update ?_) fun _ => Call.quiet_pure _
    exact fun _ => rfl
  · exact (Call.quiet_read _).bind fun _ => Call.quiet_memory.bind fun _ =>
      (Call.quiet_note rfl).bind fun _ => Call.quiet_pure _

theorem quiet_view : (c.view : Call ε σ _).Quiet :=
  Call.quiet_memory.bind fun _ => (Call.quiet_read _).bind fun _ => (Call.quiet_read _).bind fun _ =>
    Call.quiet_pure _

end Circuit

end CircuitBreaker
