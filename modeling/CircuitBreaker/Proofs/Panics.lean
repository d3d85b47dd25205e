/-
Listeners that panic. The panic leaves the call, the lock is let go of, and what is remembered is the
same as if the listener had returned: it was stored before. An attempt whose admission panics is the
exception: it has got no further than a query, and its operation does not run. So no later call can
tell that there was a panic.
-/
import CircuitBreaker.Proofs.Ending

namespace CircuitBreaker

variable {α ε σ : Type} {c : Circuit σ}

/-! ## The same listeners without panics -/

/-- Surroundings in which the listeners do the same, but do not panic. -/
def World.composed (w : World σ) : World σ :=
  { w with notify := fun kind world => (none, (w.notify kind world).2) }

/-- A circuit breaker in such surroundings. -/
def Circuit.composed (c : Circuit σ) : Circuit σ := { c with world := c.world.composed }

/-- What is left of a turn whose listener panics: of an admission, a query; any other turn has nothing
more to store. -/
def Turn.reduced : Turn α ε → Turn α ε
  | admission _ _ => kind
  | turn => turn

theorem Turn.asks?_reduced (turn : Turn α ε) : turn.reduced.asks? = none := by
  cases turn <;> rfl

theorem Circuit.moved_reduced (memory : Memory ε) (world : σ) (turn : Turn α ε) :
    c.moved memory world turn.reduced = c.moved memory world turn := by
  cases turn <;> rfl

theorem Circuit.moved_composed (memory : Memory ε) (world : σ) (turn : Turn α ε) :
    c.composed.moved memory world turn = c.moved memory world turn := by
  cases turn with
  | recording attempt outcome => cases outcome <;> rfl
  | _ => rfl

theorem Circuit.heard_reduced (memory : Memory ε) (world : σ) (turn : Turn α ε) :
    c.heard memory world turn.reduced = c.heard memory world turn := by
  cases turn <;> rfl

theorem Circuit.target_composed (memory : Memory ε) (world : σ) (turn : Turn α ε) :
    c.composed.target memory world turn = c.target memory world turn := by
  cases turn with
  | recording attempt outcome => cases outcome <;> rfl
  | _ => rfl

theorem Circuit.clocked_composed (world : σ) (turn : Turn α ε) :
    c.composed.clocked world turn = c.clocked world turn := by
  cases turn with
  | recording attempt outcome => cases outcome <;> rfl
  | _ => rfl

/-- The listener of a turn does the same to the surroundings, but for its panic. -/
theorem Circuit.heard_composed (memory : Memory ε) (world : σ) (turn : Turn α ε) :
    c.composed.heard memory world turn = (none, (c.heard memory world turn).2) := by
  unfold heard
  rw [target_composed, clocked_composed]
  cases c.target memory world turn <;> rfl

/-! ## One turn -/

/-- The memory after a panic is that of the move. -/
theorem Turn.memory_of_panic {turn : Turn α ε} {memory : Memory ε} {world : σ} {text : String}
    (h : (c.heard memory world turn).1 = some text) :
    (turn.call c memory world).memory = c.moved memory world turn := by
  rw [call_of_panic c h]

/-- A turn that admits no attempt leaves the memory of its move, whatever the listeners do. -/
theorem Turn.memory_reduced (turn : Turn α ε) (memory : Memory ε) (world : σ) :
    (turn.reduced.call c memory world).memory = c.moved memory world turn := by
  rw [memory_call, waits_eq_false c turn.asks?_reduced, if_neg Bool.false_ne_true, Circuit.moved_reduced]

theorem Turn.returns_of_composed (turn : Turn α ε) (memory : Memory ε) (world : σ) :
    ∃ answer, (turn.call c.composed memory world).result = .ok answer := by
  cases hr : (turn.call c.composed memory world).result with
  | ok answer => exact ⟨answer, rfl⟩
  | error text =>
    rw [result_eq_error_iff, Circuit.heard_composed] at hr
    cases hr

/-- But for a snapshot, which goes on to read the clocks, a turn leaves the surroundings to its
listener. -/
theorem Turn.world_reduced {turn : Turn α ε} (hs : turn ≠ .snapshot) (memory : Memory ε) (world : σ) :
    (turn.reduced.call c.composed memory world).world = (c.heard memory world turn).2 := by
  have hh := c.heard_composed memory world turn.reduced
  rw [call_of_returns c.composed (by rw [hh])]
  rw [hh, Circuit.heard_reduced]
  cases turn with
  | snapshot => exact absurd rfl hs
  | _ => rfl

/-- What panics does not start an operation. -/
theorem Turn.not_started_of_panic {turn : Turn α ε} {memory : Memory ε} {world : σ} {text : String}
    (h : (turn.call c memory world).result = .error text) : Note.started ∉ (turn.call c memory world).notes := by
  intro hn
  obtain ⟨attempt, form, -, hw⟩ := waiting_of_started c hn
  rw [hw] at h
  cases h

/-! ## The lock -/

/-- A lock whose own state is of type `κ`. A call that does not get past it waits for ever, and one that has taken
it lets go of it when it returns, or on the way out of a panic. -/
structure Lock (κ : Type) where
  take : κ → Option κ
  release : κ → κ
  unwind : κ → κ

/-- Lets go of the lock, as the call ends. -/
def Lock.letGo {κ β : Type} (lock : Lock κ) (held : κ) : Except String β → κ
  | .ok _ => lock.release held
  | .error _ => lock.unwind held

/-- What a lock is relied on for. It can be taken if it is free; nobody else gets past it as long as the call lasts
that has taken it; and it is free again after that call, whether the call has returned or has panicked. -/
structure Lock.Lawful {κ : Type} (lock : Lock κ) (Free : κ → Prop) : Prop where
  take : ∀ free, Free free → ∃ held, lock.take free = some held
  excludes : ∀ free held, Free free → lock.take free = some held → lock.take held = none
  release : ∀ free held, Free free → lock.take free = some held → Free (lock.release held)
  unwind : ∀ free held, Free free → lock.take free = some held → Free (lock.unwind held)

theorem Lock.Lawful.letGo {κ β : Type} {lock : Lock κ} {Free : κ → Prop} (h : lock.Lawful Free) {free held : κ}
    (hf : Free free) (ht : lock.take free = some held) (result : Except String β) :
    Free (lock.letGo held result) := by
  cases result with
  | ok => exact h.release free held hf ht
  | error => exact h.unwind free held hf ht

/-- A lock that is nothing but a flag, which is up while the lock is held. -/
def Lock.flag : Lock Bool where
  take held := if held then none else some true
  release _ := false
  unwind _ := false

theorem Lock.lawful_flag : flag.Lawful (· = false) where
  take := by
    rintro _ rfl
    exact ⟨true, rfl⟩
  excludes := by
    rintro _ _ rfl ⟨⟩
    rfl
  release _ _ _ _ := rfl
  unwind _ _ _ _ := rfl

/-- A circuit breaker behind its lock: what it remembers, and the lock. -/
structure Guarded (κ ε : Type) where
  memory : Memory ε
  lock : κ

namespace Guarded

variable {κ : Type} {lock : Lock κ} {Free : κ → Prop} {free held : κ}

/-- A turn behind the lock, unless it gets stuck. -/
def turn (lock : Lock κ) (c : Circuit σ) (turn : Turn α ε) (guarded : Guarded κ ε) (world : σ) :
    Option (Except String (Answer α ε) × Guarded κ ε) := do
  let held ← lock.take guarded.lock
  let ended := turn.call c guarded.memory world
  return (ended.result, ⟨ended.memory, lock.letGo held ended.result⟩)

/-- The results of a run behind the lock and what it leaves, unless one of its turns gets stuck. -/
def run (lock : Lock κ) (c : Circuit σ) (guarded : Guarded κ ε) :
    List (Turn α ε × σ) → Option (List (Except String (Answer α ε)) × Guarded κ ε)
  | [] => some ([], guarded)
  | (t, world) :: events => do
    let (result, guarded) ← guarded.turn lock c t world
    let (results, guarded) ← run lock c guarded events
    return (result :: results, guarded)

/-- Behind a lock that is held every turn gets stuck. -/
theorem turn_of_held (h : lock.take held = none) (t : Turn α ε) (memory : Memory ε) (world : σ) :
    turn lock c t ⟨memory, held⟩ world = none := by
  unfold turn
  rw [h]
  rfl

/-- Behind a free lock a turn does what it does, and leaves the lock free, whether a listener panics or not. -/
theorem turn_of_free (hl : lock.Lawful Free) (hf : Free free) (t : Turn α ε) (memory : Memory ε) (world : σ) :
    ∃ left, Free left ∧ turn lock c t ⟨memory, free⟩ world =
      some ((t.call c memory world).result, ⟨(t.call c memory world).memory, left⟩) := by
  obtain ⟨held, ht⟩ := hl.take free hf
  refine ⟨_, hl.letGo hf ht (t.call c memory world).result, ?_⟩
  unfold turn
  rw [ht]
  rfl

/-- No turn of a run gets stuck, whichever listeners panic in it. -/
theorem run_of_free (hl : lock.Lawful Free) (events : List (Turn α ε × σ)) (hf : Free free) (memory : Memory ε) :
    ∃ left, Free left ∧ run lock c ⟨memory, free⟩ events =
      some ((c.steps memory events).map fun s => s.ended.result, ⟨c.after memory events, left⟩) := by
  induction events generalizing memory free with
  | nil => exact ⟨free, hf, rfl⟩
  | cons event events ih =>
    obtain ⟨t, world⟩ := event
    obtain ⟨next, hnext, hturn⟩ := turn_of_free (c := c) hl hf t memory world
    obtain ⟨left, hleft, hrun⟩ := ih hnext (t.call c memory world).memory
    refine ⟨left, hleft, ?_⟩
    rw [run, hturn]
    simp only [Option.bind_eq_bind, Option.bind_some, hrun]
    rfl

end Guarded

/-! ## What a panic leaves -/

/-- An admission that panics has turned the circuit half-open, and has done nothing else. -/
theorem Circuit.moved_of_asks {turn : Turn α ε} {memory : Memory ε} {world : σ} {next : State}
    (ha : turn.asks? ≠ none) (ht : c.target memory world turn = some next) :
    c.moved memory world turn = { memory with state := .halfOpen } := by
  unfold moved
  rw [ht]
  cases turn with
  | admission attempt form =>
    obtain ⟨-, rfl⟩ := State.refresh_eq_some ht
    rfl
  | _ => exact absurd rfl ha

/-- A listener that panics does no harm. Let a turn move to a state and the listener for that state
panic. Then the panic leaves the call, and the lock, which was held during the call, is free again. What is
remembered is the same as if the same listener had returned, where for an admission a query stands in: its operation
does not run, and the circuit has turned half-open, with the count of failures and the failure observed last as they
were. The surroundings are the same as well, but for the readings of the clocks that a snapshot goes on
to make. So in every run that follows no turn gets stuck, and each gives the same result as if there
had been no panic.

Only the first and the last part rest on the laws of the lock: the first on `take` and `excludes` and, that the lock
is free after the panic, on `unwind`; the last on `take`, `release` and, for the panics of later turns, `unwind`. -/
theorem panic_keeps {κ : Type} {lock : Lock κ} {Free : κ → Prop} (hl : lock.Lawful Free) (c : Circuit σ)
    (turn : Turn α ε) (memory : Memory ε) (world : σ) (next : State) (text : String)
    (ht : c.target memory world turn = some next)
    (hp : (c.world.notify next.kind (c.clocked world turn)).1 = some text) :
    let ended := turn.call c memory world
    let calm := turn.reduced.call c.composed memory world
    (∀ free, Free free → ∃ held left, lock.take free = some held ∧
      (∀ (other : Turn α ε) (seen : Memory ε) (around : σ), Guarded.turn lock c other ⟨seen, held⟩ around = none) ∧
      Guarded.turn lock c turn ⟨memory, free⟩ world = some (.error text, ⟨ended.memory, left⟩) ∧ Free left) ∧
    (∃ answer, calm.result = .ok answer) ∧
    ended.memory = calm.memory ∧
    (turn ≠ .snapshot → ended.world = calm.world) ∧
    (turn.asks? ≠ none →
      Note.started ∉ ended.notes ∧
      ended.memory = ((.kind : Turn α ε).call c memory world).memory ∧
      ended.memory = { memory with state := .halfOpen }) ∧
    ∀ free, Free free → ∀ events : List (Turn α ε × σ), ∃ left, Free left ∧
      Guarded.run lock c ⟨ended.memory, free⟩ events =
        some ((c.steps calm.memory events).map fun s => s.ended.result, ⟨c.after calm.memory events, left⟩) := by
  intro ended calm
  have hh : (c.heard memory world turn).1 = some text := by
    unfold Circuit.heard
    rw [ht]
    exact hp
  have hr : ended.result = .error text := (Turn.result_eq_error_iff c).2 hh
  have hm : ended.memory = c.moved memory world turn := Turn.memory_of_panic hh
  have hc : calm.memory = c.moved memory world turn :=
    (Turn.memory_reduced turn memory world).trans (c.moved_composed memory world turn)
  refine ⟨fun free hf => ?_, Turn.returns_of_composed _ _ _, hm.trans hc.symm, fun hs => ?_,
    fun ha => ⟨?_, ?_, ?_⟩, fun free hf events => ?_⟩
  · obtain ⟨held, htaken⟩ := hl.take free hf
    obtain ⟨left, hleft, hturn⟩ := Guarded.turn_of_free (c := c) hl hf turn memory world
    refine ⟨held, left, htaken, Guarded.turn_of_held (hl.excludes free held hf htaken), ?_, hleft⟩
    rw [hturn]
    show some (ended.result, _) = _
    rw [hr]
  · rw [show calm.world = _ from Turn.world_reduced hs memory world]
    show (turn.call c memory world).world = _
    rw [Turn.call_of_panic c hh]
  · exact Turn.not_started_of_panic hr
  · -- the query would move to the same state
    have hq : turn.reduced = .kind := by
      cases turn with
      | admission => rfl
      | _ => exact absurd rfl ha
    rw [hm, ← hq, Turn.memory_reduced]
  · exact hm.trans (c.moved_of_asks ha ht)
  · rw [← hm.trans hc.symm]
    exact Guarded.run_of_free hl events hf ended.memory

namespace Bench

/-- A listener that panics the first time that it runs. -/
def nervous : BenchListener := ⟨0, "nervous", false, none, some 1⟩

/-- A circuit breaker with this listener for the half-open state. -/
def startled : Circuit Bench :=
  ⟨fragile.settings, world (Listeners.empty.set .halfOpen nervous)⟩

end Bench

/-- An attempt comes to an open circuit after its cooldown, and the listener panics behind a lock that is a flag. -/
theorem panic_keeps_startled :
    let memory : Memory String := ⟨.opened ⟨0⟩ .epoch, 1, some "down"⟩
    let world := Bench.reading 1000000
    let turn : Turn Unit String := .admission 0 .running
    Lock.flag.Lawful (· = false) ∧
    Bench.startled.target memory world turn = some .halfOpen ∧
    (Bench.startled.world.notify .halfOpen (Bench.startled.clocked world turn)).1 =
      some "listener nervous" ∧
    (turn.call Bench.startled memory world).memory = { memory with state := .halfOpen } ∧
    Guarded.turn Lock.flag Bench.startled turn ⟨memory, false⟩ world =
      some (.error "listener nervous", ⟨{ memory with state := .halfOpen }, false⟩) := by
  intro memory world turn
  have ht : Bench.startled.target memory world turn = some .halfOpen := by decide
  have hp : (Bench.startled.world.notify .halfOpen (Bench.startled.clocked world turn)).1 =
      some "listener nervous" := by decide
  obtain ⟨hlock, -, -, -, hasks, -⟩ :=
    panic_keeps Lock.lawful_flag Bench.startled turn memory world .halfOpen _ ht hp
  obtain ⟨held, left, -, -, hturn, rfl⟩ := hlock false rfl
  have hmemory := (hasks nofun).2.2
  refine ⟨Lock.lawful_flag, ht, hp, hmemory, ?_⟩
  rw [hturn, hmemory]

end CircuitBreaker
