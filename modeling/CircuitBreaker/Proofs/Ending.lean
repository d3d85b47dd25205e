/-
How turns end: with the panic of the listener that they run, or else with the answer that they
conclude with. What a turn leaves behind is the same both ways, but for an attempt that is admitted,
which forgets the failure observed last; and it leads its surroundings only where the clocks and the
listeners lead them.
-/
import CircuitBreaker.Proofs.Run

namespace CircuitBreaker

theorem State.admits_eq_false_iff {state : State} : state.admits = false ↔ state.kind = .opened := by
  cases state <;> simp [kind]

namespace Circuit

variable {α ε σ : Type} (c : Circuit σ)

/-- What is remembered right after the move of a turn. -/
def moved (memory : Memory ε) (world : σ) (turn : Turn α ε) : Memory ε :=
  (turn.primed memory).move (c.target memory world turn)

/-- What the listener does in the move of a turn: the text of its panic, and the surroundings after
it. -/
def heard (memory : Memory ε) (world : σ) (turn : Turn α ε) : Option String × σ :=
  c.told (c.clocked world turn) (c.target memory world turn)

/-- What happens in a turn up to the end of its move. -/
def opening (memory : Memory ε) (world : σ) (turn : Turn α ε) : List Note :=
  turn.lead memory.state ++ (turn.primed memory).moveNotes (c.target memory world turn)

/-! ## Conclusions -/

theorem conclude_of_admits {memory : Memory ε} (h : memory.state.admits = true) (world : σ) (attempt : Nat)
    (form : Form) :
    (c.conclude (.admission attempt form : Turn α ε) memory world).result = .ok .waiting ∧
    (c.conclude (.admission attempt form : Turn α ε) memory world).memory =
      { memory with lastFailure := none } := by
  have hd := c.decision_of_admits h world
  have hc : c.conclude (.admission attempt form : Turn α ε) memory world = _ := Call.bind_ok (by rw [hd])
  rw [hc, hd]
  cases form <;> exact ⟨rfl, rfl⟩

theorem conclude_of_rejects {memory : Memory ε} (h : memory.state.admits = false) (world : σ)
    (attempt : Nat) (form : Form) :
    (c.conclude (.admission attempt form : Turn α ε) memory world).result =
      .ok (.refused (.rejected ⟨c.settings.name, memory.lastFailure,
        (memory.state.remaining (c.world.now world).1 c.settings.cooldown).getD .zero⟩)) ∧
    (c.conclude (.admission attempt form : Turn α ε) memory world).memory = memory := by
  have hd := c.decision_of_rejects h world
  have hc : c.conclude (.admission attempt form : Turn α ε) memory world = _ := Call.bind_ok (by rw [hd])
  rw [hc, hd]
  exact ⟨rfl, rfl⟩

theorem memory_conclude (turn : Turn α ε) (memory : Memory ε) (world : σ) :
    (c.conclude turn memory world).memory =
      if waits (c.conclude turn memory world).result = true then { memory with lastFailure := none }
      else memory := by
  cases turn with
  | admission attempt form =>
    cases ha : memory.state.admits with
    | true =>
      obtain ⟨hr, hm⟩ := c.conclude_of_admits (α := α) ha world attempt form
      rw [hr, hm]; rfl
    | false =>
      obtain ⟨hr, hm⟩ := c.conclude_of_rejects (α := α) ha world attempt form
      rw [hr, hm]; rfl
  | recording attempt outcome => cases outcome <;> rfl
  | kind | snapshot | forceOpen | forceClose => rfl

end Circuit

namespace Turn

variable {α ε σ : Type} (c : Circuit σ)

/-! ## The two ways to end -/

theorem call_of_panic {turn : Turn α ε} {memory : Memory ε} {world : σ} {text : String}
    (h : (c.heard memory world turn).1 = some text) :
    turn.call c memory world =
      ⟨.error text, c.moved memory world turn, (c.heard memory world turn).2, c.opening memory world turn⟩ := by
  have ht := c.transition?_apply (c.target memory world turn) (turn.primed memory) (c.clocked world turn)
  rw [show (c.told (c.clocked world turn) (c.target memory world turn)).1 = some text from h] at ht
  rw [call_apply, Call.bind_panic (by rw [ht]; rfl), ht]
  rfl

theorem call_of_returns {turn : Turn α ε} {memory : Memory ε} {world : σ}
    (h : (c.heard memory world turn).1 = none) :
    turn.call c memory world =
      (c.conclude turn (c.moved memory world turn) (c.heard memory world turn).2).preceded
        (c.opening memory world turn) := by
  have ht := c.transition?_apply (c.target memory world turn) (turn.primed memory) (c.clocked world turn)
  rw [show (c.told (c.clocked world turn) (c.target memory world turn)).1 = none from h] at ht
  rw [call_apply, Call.bind_ok (by rw [ht]; rfl), ht, Call.preceded_preceded]
  rfl

/-- A turn panics exactly if the listener that it runs does. -/
theorem result_eq_error_iff {turn : Turn α ε} {memory : Memory ε} {world : σ} {text : String} :
    (turn.call c memory world).result = .error text ↔ (c.heard memory world turn).1 = some text := by
  cases h : (c.heard memory world turn).1 with
  | some panic =>
    rw [call_of_panic c h]
    constructor
    · intro he; cases he; rfl
    · intro he; cases he; rfl
  | none =>
    rw [call_of_returns c h]
    obtain ⟨answer, ha⟩ := (quiet_conclude c turn).returns (c.moved memory world turn)
      (c.heard memory world turn).2
    constructor
    · intro he
      rw [show (Ended.preceded _ _).result = _ from ha] at he
      cases he
    · nofun

/-- All that a turn leaves behind: what its move does, and if it admits an attempt, the failure observed
last is forgotten. -/
theorem memory_call (turn : Turn α ε) (memory : Memory ε) (world : σ) :
    (turn.call c memory world).memory =
      if waits (turn.call c memory world).result = true then
        { c.moved memory world turn with lastFailure := none }
      else c.moved memory world turn := by
  cases h : (c.heard memory world turn).1 with
  | some text => rw [call_of_panic c h]; rfl
  | none => rw [call_of_returns c h]; exact c.memory_conclude turn _ _

/-- Only an attempt that asks for admission may wait. -/
theorem waits_eq_false {turn : Turn α ε} (h : turn.asks? = none) (memory : Memory ε) (world : σ) :
    waits (turn.call c memory world).result = false := by
  cases hh : (c.heard memory world turn).1 with
  | some text => rw [call_of_panic c hh]; rfl
  | none =>
    rw [call_of_returns c hh]
    cases turn with
    | admission => cases h
    | recording attempt outcome => cases outcome <;> rfl
    | kind | snapshot | forceOpen | forceClose => rfl

/-- An attempt is refused only in an open state that the refresh leaves as it is. -/
theorem eq_of_moved_rejects {memory : Memory ε} {world : σ} {attempt : Nat} {form : Form}
    (h : (c.moved memory world (admission attempt form : Turn α ε)).state.admits = false) :
    c.moved memory world (admission attempt form : Turn α ε) = memory ∧ memory.state.kind = .opened := by
  unfold Circuit.moved at h ⊢
  cases ht : c.target memory world (admission attempt form : Turn α ε) with
  | some next =>
    -- the refresh leads to the half-open state, which lets calls pass
    obtain ⟨-, rfl⟩ := State.refresh_eq_some ht
    rw [ht] at h
    cases h
  | none =>
    rw [ht] at h
    exact ⟨rfl, State.admits_eq_false_iff.1 h⟩

/-- An attempt whose admission does not panic waits if the state after the refresh lets it pass. If not
it is refused with the failure observed last, and everything stays as it was. -/
theorem admission_returns {memory : Memory ε} {world : σ} {attempt : Nat} {form : Form}
    (h : (c.heard memory world (admission attempt form : Turn α ε)).1 = none) :
    let ended := (admission attempt form : Turn α ε).call c memory world
    ended.result = .ok .waiting ∧ ended.memory.state.kind ≠ .opened ∨
    ∃ r, ended.result = .ok (.refused (.rejected r)) ∧ r.lastFailure = memory.lastFailure ∧
      ended.memory = memory ∧ memory.state.kind = .opened := by
  intro ended
  have he : ended = _ := call_of_returns c h
  cases ha : (c.moved memory world (admission attempt form : Turn α ε)).state.admits with
  | true =>
    obtain ⟨hr, hm⟩ := c.conclude_of_admits (α := α) ha (c.heard memory world _).2 attempt form
    refine Or.inl ⟨by rw [he]; exact hr, ?_⟩
    rw [he, show (Ended.preceded _ _).memory = _ from hm]
    intro hk
    rw [State.admits_eq_false_iff.2 hk] at ha
    cases ha
  | false =>
    obtain ⟨hr, hm⟩ := c.conclude_of_rejects (α := α) ha (c.heard memory world _).2 attempt form
    obtain ⟨hsame, hk⟩ := eq_of_moved_rejects c ha
    rw [hsame] at hr hm
    exact Or.inr ⟨_, by rw [he, hsame]; exact hr, rfl, by rw [he, hsame]; exact hm, hk⟩

/-- Only an attempt that asks for admission may be rejected. -/
theorem admission_of_rejected {turn : Turn α ε} {memory : Memory ε} {world : σ} {r : Rejection ε}
    (h : (turn.call c memory world).result = .ok (.refused (.rejected r))) :
    ∃ attempt form, turn = .admission attempt form := by
  cases hh : (c.heard memory world turn).1 with
  | some text => rw [call_of_panic c hh] at h; cases h
  | none =>
    rw [call_of_returns c hh] at h
    cases turn with
    | admission attempt form => exact ⟨attempt, form, rfl⟩
    | recording attempt outcome => cases outcome <;> cases h
    | kind | snapshot | forceOpen | forceClose => cases h

/-- A rejection carries the failure observed last, and changes nothing. -/
theorem memory_of_rejected {turn : Turn α ε} {memory : Memory ε} {world : σ} {r : Rejection ε}
    (h : (turn.call c memory world).result = .ok (.refused (.rejected r))) :
    r.lastFailure = memory.lastFailure ∧ (turn.call c memory world).memory = memory := by
  obtain ⟨attempt, form, rfl⟩ := admission_of_rejected c h
  cases hh : (c.heard memory world (admission attempt form : Turn α ε)).1 with
  | some text => rw [call_of_panic c hh] at h; cases h
  | none =>
    rcases admission_returns c hh with ⟨hw, -⟩ | ⟨r', hr, hl, hm, -⟩
    · rw [hw] at h; cases h
    · rw [hr] at h; cases h; exact ⟨hl, hm⟩

end Turn

/-! ## Where a turn leads its surroundings -/

section

variable {α β γ ε σ : Type} {R : σ → σ → Prop} {shown : σ → γ}

/-- Reading the clocks leads the surroundings along `R`, and so does any number of readings in a row. -/
structure World.Reads (w : World σ) (R : σ → σ → Prop) : Prop where
  refl : ∀ world, R world world
  trans : ∀ {first between last}, R first between → R between last → R first last
  now : ∀ world, R world (w.now world).2
  wall : ∀ world, R world (w.wall world).2

/-- Running listeners leads the surroundings along `R`, too. -/
structure World.Leads (w : World σ) (R : σ → σ → Prop) : Prop extends w.Reads R where
  notify : ∀ kind world, R world (w.notify kind world).2

/-- The call leads the surroundings along `R`. -/
def Call.Leads (call : Call ε σ α) (R : σ → σ → Prop) : Prop :=
  ∀ memory world, R world (call memory world).world

variable {c : Circuit σ}

namespace World.Reads

theorem bind (h : c.world.Reads R) {call : Call ε σ α} {next : α → Call ε σ β} (hc : call.Leads R)
    (hn : ∀ a, (next a).Leads R) : (call >>= next).Leads R := by
  intro memory world
  cases hr : (call memory world).result with
  | error text => rw [Call.bind_panic hr]; exact hc memory world
  | ok a => rw [Call.bind_ok hr]; exact h.trans (hc memory world) (hn a _ _)

theorem pure (h : c.world.Reads R) (a : α) : (Pure.pure a : Call ε σ α).Leads R := fun _ world => h.refl world

theorem note (h : c.world.Reads R) (n : Note) : (Call.note n : Call ε σ Unit).Leads R :=
  fun _ world => h.refl world

theorem memory (h : c.world.Reads R) : (Call.memory : Call ε σ (Memory ε)).Leads R := fun _ world => h.refl world

theorem update (h : c.world.Reads R) (change : Memory ε → Memory ε) :
    (Call.update change : Call ε σ Unit).Leads R :=
  fun _ world => h.refl world

theorem clocked (h : c.world.Reads R) (world : σ) (turn : Turn α ε) : R world (c.clocked world turn) := by
  unfold Circuit.clocked
  split
  · exact h.now world
  · exact h.now world
  · exact h.now world
  · exact h.trans (h.now world) (h.wall _)
  · exact h.trans (h.now world) (h.wall _)
  · exact h.refl world
  · exact h.refl world

theorem decision (h : c.world.Reads R) : (c.decision : Call ε σ _).Leads R := by
  refine h.bind h.memory fun memory => ?_
  split
  · exact h.bind (h.update _) fun _ => h.pure _
  · exact h.bind (fun _ world => h.now world) fun _ => h.bind h.memory fun _ => h.bind (h.note _) fun _ => h.pure _

theorem view (h : c.world.Reads R) : (c.view : Call ε σ _).Leads R :=
  h.bind h.memory fun _ => h.bind (fun _ world => h.now world) fun _ =>
    h.bind (fun _ world => h.wall world) fun _ => h.pure _

/-- After its move a turn only reads the clocks. -/
theorem conclude (h : c.world.Reads R) (turn : Turn α ε) : (c.conclude turn).Leads R := by
  cases turn with
  | admission attempt form =>
    refine h.bind h.decision fun reply => ?_
    cases reply with
    | some r => exact h.pure _
    | none =>
      cases form with
      | running => exact h.bind (h.note _) fun _ => h.pure _
      | constant => exact h.pure _
  | snapshot => exact h.bind h.view fun _ => h.pure _
  | kind => exact h.bind h.memory fun _ => h.pure _
  | recording | forceOpen | forceClose => exact h.pure _

/-- A turn that moves to no state only reads the clocks. -/
theorem call_of_stays (h : c.world.Reads R) {turn : Turn α ε} {memory : Memory ε} {world : σ}
    (ht : c.target memory world turn = none) : R world (turn.call c memory world).world := by
  have hheard : c.heard memory world turn = (none, c.clocked world turn) := by
    rw [Circuit.heard, ht]
    rfl
  rw [Turn.call_of_returns c (by rw [hheard]), hheard]
  exact h.trans (h.clocked world turn) (h.conclude turn _ _)

end World.Reads

theorem World.Leads.heard (h : c.world.Leads R) (memory : Memory ε) (world : σ) (turn : Turn α ε) :
    R world (c.heard memory world turn).2 := by
  unfold Circuit.heard
  cases c.target memory world turn with
  | none => exact h.clocked world turn
  | some next => exact h.trans (h.clocked world turn) (h.notify _ _)

/-- A turn leads the surroundings where clocks and listeners lead them. -/
theorem World.Leads.call (h : c.world.Leads R) (turn : Turn α ε) : (turn.call c).Leads R := by
  intro memory world
  cases hh : (c.heard memory world turn).1 with
  | some text => rw [Turn.call_of_panic c hh]; exact h.heard memory world turn
  | none => rw [Turn.call_of_returns c hh]; exact h.trans (h.heard memory world turn) (h.conclude turn _ _)

/-- Reading the clocks and running listeners leave alone what `shown` shows of the surroundings. -/
structure World.Keeps (w : World σ) (shown : σ → γ) : Prop where
  now : ∀ world, shown (w.now world).2 = shown world
  wall : ∀ world, shown (w.wall world).2 = shown world
  notify : ∀ kind world, shown (w.notify kind world).2 = shown world

/-- The call leaves alone what `shown` shows of the surroundings. -/
def Call.Keeps (call : Call ε σ α) (shown : σ → γ) : Prop :=
  ∀ memory world, shown (call memory world).world = shown world

theorem World.Keeps.leads (h : c.world.Keeps shown) : c.world.Leads fun a b => shown b = shown a :=
  ⟨⟨fun _ => rfl, fun hab hbd => hbd.trans hab, h.now, h.wall⟩, h.notify⟩

/-- A turn does not touch what the clocks and the listeners do not touch. -/
theorem World.Keeps.call (h : c.world.Keeps shown) (turn : Turn α ε) : (turn.call c).Keeps shown :=
  fun memory world => h.leads.call turn memory world

end

end CircuitBreaker
