/-
Runs side by side. What a circuit breaker does depends on its state, on its count of failures, and on
what the clocks and the listeners show it of the surroundings. The failure observed last it only hands
out. So calls that start alike in all this, also with different failures observed last, end alike:
with the same answers but for what these tell of that failure, with the same notices, and in memories
and surroundings that are alike again; and so do whole runs.
-/
import CircuitBreaker.Proofs.Coupling

namespace CircuitBreaker

variable {α β ε σ τ : Type}

/-! ## Being alike -/

/-- What `shown` shows of the surroundings is all that matters of them: it tells what the clocks read
and what the listeners do, and what is shown afterwards. -/
structure World.Told (w : World σ) (shown : σ → τ) : Prop where
  now : ∀ {a b}, shown a = shown b →
    (w.now a).1 = (w.now b).1 ∧ shown (w.now a).2 = shown (w.now b).2
  wall : ∀ {a b}, shown a = shown b →
    (w.wall a).1 = (w.wall b).1 ∧ shown (w.wall a).2 = shown (w.wall b).2
  notify : ∀ kind {a b}, shown a = shown b →
    (w.notify kind a).1 = (w.notify kind b).1 ∧ shown (w.notify kind a).2 = shown (w.notify kind b).2

theorem World.told_id (w : World σ) : w.Told id := by
  refine ⟨?_, ?_, fun kind => ?_⟩ <;> rintro a b rfl <;> exact ⟨rfl, rfl⟩

/-- Any two failures observed last, or none. -/
def Whichever (_ _ : Option ε) : Prop := True

section

variable (L : Option ε → Option ε → Prop) (shown : σ → τ)

/-- The memories are the same but for the failures observed last, which `L` relates. -/
structure Memory.Alike (memory memory' : Memory ε) : Prop where
  core : memory.core = memory'.core
  last : L memory.lastFailure memory'.lastFailure

/-- The rejections are the same but for the failures observed last, which `L` relates. -/
structure Rejection.Alike (r r' : Rejection ε) : Prop where
  name : r.name = r'.name
  remaining : r.remaining = r'.remaining
  last : L r.lastFailure r'.lastFailure

/-- The snapshots are the same but for whether a failure has been observed last, which each tells of
one of two failures that `L` relates. -/
structure Snapshot.Alike (s s' : Snapshot) : Prop where
  rest : { s with hasLastFailure := s'.hasLastFailure } = s'
  last : ∃ f f', L f f' ∧ s.hasLastFailure = f.isSome ∧ s'.hasLastFailure = f'.isSome

/-- The answers are the same but for what they tell of the failures observed last. -/
inductive Answer.Alike : Answer α ε → Answer α ε → Prop
  | same (answer) : Alike answer answer
  | rejected {r r'} (h : r.Alike L r') : Alike (.refused (.rejected r)) (.refused (.rejected r'))
  | snapshot {s s'} (h : s.Alike L s') : Alike (.snapshot s) (.snapshot s')

/-- The calls have ended alike, and the same has happened in them. -/
structure Ended.Alike (R : α → β → Prop) (ended : Ended ε σ α) (ended' : Ended ε σ β) : Prop where
  result : ResultAlike R ended.result ended'.result
  memory : ended.memory.Alike L ended'.memory
  world : shown ended.world = shown ended'.world
  notes : ended.notes = ended'.notes

/-- The calls end alike wherever they start alike. -/
def Call.Alike (R : α → β → Prop) (call : Call ε σ α) (call' : Call ε σ β) : Prop :=
  ∀ memory memory' world world', memory.Alike L memory' → shown world = shown world' →
    (call memory world).Alike L shown R (call' memory' world')

end

section

variable {L : Option ε → Option ε → Prop}

/-- Where memories are alike only in being equal, so are answers. -/
theorem Answer.Alike.eq {answer answer' : Answer α ε} (h : answer.Alike Eq answer') :
    answer = answer' := by
  cases h with
  | same => rfl
  | @rejected r r' h =>
    obtain ⟨name, last, remaining⟩ := r
    obtain ⟨rfl, rfl, rfl⟩ := h
    rfl
  | snapshot h =>
    obtain ⟨f, _, rfl, hs, hs'⟩ := h.last
    rw [← h.rest, hs', ← hs]

theorem ResultAlike.eq {result result' : Except String (Answer α ε)}
    (h : ResultAlike (Answer.Alike Eq) result result') : result = result' := by
  cases h with
  | value h => rw [h.eq]
  | panic => rfl

theorem Memory.Alike.eq {memory memory' : Memory ε} (h : memory.Alike Eq memory') :
    memory = memory' := by
  obtain ⟨state, failures, last⟩ := memory
  obtain ⟨hcore, hlast⟩ := h
  obtain ⟨rfl, rfl⟩ := Prod.mk.inj hcore
  obtain rfl : last = _ := hlast
  rfl

end

/-! ## Alike and coupled -/

section

variable {L : Option ε → Option ε → Prop} {shown : σ → τ} {c : Circuit σ}

/-- The circuit breaker next to itself, where only the failures observed last may differ, and what is not
shown of the surroundings. -/
def Coupling.alike (α : Type) (hL : ∀ f, L f f) (ht : c.world.Told shown) : Coupling α α ε ε c c :=
  { Coupling.same α ε c with
    last := L
    worlds := fun a b => shown a = shown b
    last_none := hL none
    last_some := by
      rintro e _ rfl
      exact hL (some e)
    now := ht.now
    wall := ht.wall
    notify := ht.notify }

variable {hL : ∀ f, L f f} {ht : c.world.Told shown}

theorem Coupling.memories_alike {memory memory' : Memory ε} :
    (Coupling.alike α hL ht).Memories memory memory' ↔ memory.Alike L memory' := by
  constructor
  · intro h
    exact ⟨Prod.ext (h.state.eq (fun _ _ h => h) fun _ _ h => h) h.failures, h.last⟩
  · intro h
    have hfailures : memory.failures = memory'.failures := congrArg Prod.snd h.core
    have hstate : memory.state = memory'.state := congrArg Prod.fst h.core
    exact ⟨hstate ▸ states_refl (fun _ => rfl) (fun _ => rfl) _, hfailures, fun _ => hfailures, h.last⟩

theorem Coupling.Answers.alike {answer answer' : Answer α ε}
    (h : (Coupling.alike α hL ht).Answers answer answer') : answer.Alike L answer' := by
  cases h with
  | succeeded h => rw [show _ = _ from h]; exact .same _
  | failed h => rw [show _ = _ from h]; exact .same _
  | rejected h => exact .rejected ⟨h.name, h.remaining, h.last⟩
  | snapshot h =>
    -- of the times and the count nothing is left to differ
    obtain ⟨hopened, hcaptured⟩ := h.dates fun _ _ ht => ht
    refine .snapshot ⟨?_, h.last⟩
    rw [← h.rest, ← show _ = _ from h.failures, ← hopened, ← hcaptured]
  | _ => exact .same _

theorem ResultAlike.mono {R S : α → β → Prop} (hRS : ∀ {a b}, R a b → S a b) {result : Except String α}
    {result' : Except String β} (h : ResultAlike R result result') : ResultAlike S result result' := by
  cases h with
  | value h => exact .value (hRS h)
  | panic text => exact .panic text

theorem Coupling.Endings.alike {ended ended' : Ended ε σ (Answer α ε)}
    (h : (Coupling.alike α hL ht).Endings (Coupling.alike α hL ht).Answers ended ended') :
    ended.Alike L shown (Answer.Alike L) ended' :=
  ⟨h.result.mono Coupling.Answers.alike, Coupling.memories_alike.1 h.memory, h.world,
    Coupling.notes_eq (fun _ _ h => h) h.notes⟩

end

/-! ## Turns and runs -/

section

variable {L : Option ε → Option ε → Prop} {shown : σ → τ} {c : Circuit σ}

theorem Turn.alike_call (hL : ∀ f, L f f) (ht : c.world.Told shown) (turn : Turn α ε) :
    Call.Alike L shown (Answer.Alike L) (turn.call c) (turn.call c) := by
  intro memory memory' world world' hm hw
  have hturn : (Coupling.alike α hL ht).Turns turn turn := Coupling.turns_refl (fun _ => rfl) (fun _ => rfl) turn
  exact (Coupling.calls_turn hturn _ _ _ _ (Coupling.memories_alike.2 hm) hw).alike

theorem Turn.alike_conclude (hL : ∀ f, L f f) (ht : c.world.Told shown) (turn : Turn α ε) :
    Call.Alike L shown (Answer.Alike L) (c.conclude turn) (c.conclude turn) := by
  intro memory memory' world world' hm hw
  have hturn : (Coupling.alike α hL ht).Turns turn turn := Coupling.turns_refl (fun _ => rfl) (fun _ => rfl) turn
  exact (Coupling.calls_conclude hturn _ _ _ _ (Coupling.memories_alike.2 hm) hw).alike

/-- The steps are of the same turn, and start and end alike. -/
structure Step.Alike (L : Option ε → Option ε → Prop) (shown : σ → τ) (s s' : Step c α ε) : Prop where
  turn : s.turn = s'.turn
  memory : s.memory.Alike L s'.memory
  world : shown s.world = shown s'.world
  ended : s.ended.Alike L shown (Answer.Alike L) s'.ended

/-- Runs that start alike go on alike, as long as they take the same turns. -/
theorem steps_alike (hL : ∀ f, L f f) (ht : c.world.Told shown) (events : List (Turn α ε × σ))
    {memory memory' : Memory ε} (hm : memory.Alike L memory') :
    List.Forall₂ (Step.Alike L shown) (c.steps memory events) (c.steps memory' events) ∧
      (c.after memory events).Alike L (c.after memory' events) := by
  induction events generalizing memory memory' with
  | nil => exact ⟨.nil, hm⟩
  | cons event events ih =>
    have hended := Turn.alike_call hL ht event.1 memory memory' event.2 event.2 hm rfl
    obtain ⟨hsteps, hafter⟩ := ih hended.memory
    exact ⟨.cons ⟨rfl, hm, rfl, hended⟩ hsteps, hafter⟩

end

end CircuitBreaker
