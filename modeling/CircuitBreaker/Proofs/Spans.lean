/-
What clocks tell. A circuit breaker looks at the monotonic clock for the time between two readings only,
and at the wall clock not at all: what that shows is handed out in snapshots. So runs are the same, but for
dates in snapshots, where one monotonic clock is always ahead of the other by the same span, even if they
go backwards, and the wall clocks have nothing to do with each other.
-/
import CircuitBreaker.Proofs.CoupledSessions

namespace CircuitBreaker

variable {α ε σ σ' τ : Type}

/-! ## Clocks that are ahead of each other -/

/-- The second reading is ahead of the first one by this many nanoseconds, or behind it by as many. -/
def Instant.Ahead (d : Int) (a b : Instant) : Prop := (b.nanos : Int) = a.nanos + d

/-- The same time lies between readings as between others that are all ahead of them by the same span. Where
a clock has gone backwards it is no time for both. -/
theorem Instant.since_of_ahead {d : Int} {now now' entered entered' : Instant} (hn : now.Ahead d now')
    (he : entered.Ahead d entered') : now.since entered = now'.since entered' := by
  unfold Ahead at hn he
  have hspan : now.nanos - entered.nanos = now'.nanos - entered'.nanos := by omega
  exact congrArg Duration.mk hspan

/-- Surroundings that `R` relates differ in what their clocks show: the monotonic clock of the second one
is ahead by `d`, and nothing is said of the wall clocks. Listeners do the same in both. -/
structure World.Ahead (d : Int) (R : σ → σ' → Prop) (w : World σ) (w' : World σ') : Prop where
  now : ∀ {a b}, R a b → (w.now a).1.Ahead d (w'.now b).1 ∧ R (w.now a).2 (w'.now b).2
  wall : ∀ {a b}, R a b → R (w.wall a).2 (w'.wall b).2
  notify : ∀ kind {a b}, R a b → (w.notify kind a).1 = (w'.notify kind b).1 ∧
    R (w.notify kind a).2 (w'.notify kind b).2

/-! ### Clocks whose readings are given -/

/-- How often the clocks have been read, and the state of the listeners. -/
structure Readings (τ : Type) where
  nows : Nat
  walls : Nat
  listeners : τ

/-- Clocks that show given times, one after the other, and listeners with a state of their own. -/
def World.showing (nows : Nat → Instant) (walls : Nat → Timestamp) (notify : Kind → τ → Option String × τ) :
    World (Readings τ) where
  now r := (nows r.nows, { r with nows := r.nows + 1 })
  wall r := (walls r.walls, { r with walls := r.walls + 1 })
  notify kind r := ((notify kind r.listeners).1, { r with listeners := (notify kind r.listeners).2 })

theorem World.ahead_showing {d : Int} {nows nows' : Nat → Instant} (h : ∀ i, (nows i).Ahead d (nows' i))
    (walls walls' : Nat → Timestamp) (notify : Kind → τ → Option String × τ) :
    (World.showing nows walls notify).Ahead d Eq (World.showing nows' walls' notify) := by
  refine ⟨?_, ?_, fun kind => ?_⟩
  · rintro r _ rfl
    exact ⟨h r.nows, rfl⟩
  · rintro r _ rfl
    rfl
  · rintro r _ rfl
    exact ⟨rfl, rfl⟩

/-! ## Leaving out dates -/

/-- What is remembered, without the times at which an open state was entered. -/
def Memory.undated (memory : Memory ε) : Kind × UInt32 × Option ε :=
  (memory.state.kind, memory.failures, memory.lastFailure)

def Snapshot.undated (s : Snapshot) : Snapshot :=
  { s with openedAt := s.openedAt.map fun _ => .epoch, capturedAt := .epoch }

/-- Only snapshots tell dates: that of the opening, and their own. -/
def Answer.undated : Answer α ε → Answer α ε
  | snapshot s => snapshot s.undated
  | answer => answer

/-- The result of a call, what is remembered after it and what has happened, without dates. -/
def Ended.undated (ended : Ended ε σ (Answer α ε)) :
    Except String (Answer α ε) × (Kind × UInt32 × Option ε) × List Note :=
  (ended.result.map Answer.undated, ended.memory.undated, ended.notes)

/-! ## Circuit breakers with such clocks -/

namespace Coupling

variable {c : Circuit σ} {c' : Circuit σ'} {d : Int} {R : σ → σ' → Prop}

/-- Circuit breakers next to each other whose clocks are ahead of each other. -/
def ahead (α ε : Type) (hs : c.settings = c'.settings) (hw : c.world.Ahead d R c'.world) :
    Coupling α α ε ε c c' :=
  { same α ε c with
    instants := Instant.Ahead d
    times := fun _ _ => True
    worlds := R
    settings := hs
    since := Instant.since_of_ahead
    now := hw.now
    wall := fun h => ⟨trivial, hw.wall h⟩
    notify := hw.notify }

variable {hs : c.settings = c'.settings} {hw : c.world.Ahead d R c'.world}

theorem memories_initial : (ahead α ε hs hw).Memories (.initial : Memory ε) .initial :=
  ⟨.closed, rfl, fun _ => rfl, rfl⟩

theorem Memories.undated {memory memory' : Memory ε} (h : (ahead α ε hs hw).Memories memory memory') :
    memory.undated = memory'.undated := by
  unfold Memory.undated
  rw [h.state.kind, show memory.failures = _ from h.failures, show memory.lastFailure = _ from h.last]

theorem Snapshots.undated {s s' : Snapshot} (h : (ahead α ε hs hw).Snapshots s s') :
    s.undated = s'.undated := by
  obtain ⟨hrest, hfailures, hopened, ⟨f, f', hlast, hf, hf'⟩, -⟩ := h
  obtain rfl : f = f' := hlast
  have hdate : s.openedAt.map (fun _ => Timestamp.epoch) = s'.openedAt.map fun _ => Timestamp.epoch := by
    generalize s.openedAt = o, s'.openedAt = o' at hopened
    cases hopened <;> rfl
  unfold Snapshot.undated
  rw [← hdate, ← hrest, hf', ← hf, ← show s.failures = _ from hfailures]

theorem Answers.undated {answer answer' : Answer α ε} (h : (ahead α ε hs hw).Answers answer answer') :
    answer.undated = answer'.undated := by
  cases h with
  | succeeded h => rw [show _ = _ from h]
  | failed h => rw [show _ = _ from h]
  | rejected h => rw [h.eq fun _ _ hl => hl]
  | snapshot h => exact congrArg Answer.snapshot h.undated
  | _ => rfl

theorem Endings.undated {ended : Ended ε σ (Answer α ε)} {ended' : Ended ε σ' (Answer α ε)}
    (h : (ahead α ε hs hw).Endings (ahead α ε hs hw).Answers ended ended') : ended.undated = ended'.undated := by
  unfold Ended.undated
  rw [h.result.map_eq fun _ _ ha => ha.undated, h.memory.undated, notes_eq (fun _ _ hc => hc) h.notes]

end Coupling

/-! ## Runs and sessions -/

section

variable (c : Circuit σ) (c' : Circuit σ') {d : Int} {R : σ → σ' → Prop}

/-- The steps are of the same turn and end the same but for dates, in surroundings that `R` relates. -/
structure Step.SameButDates {c : Circuit σ} {c' : Circuit σ'} (R : σ → σ' → Prop) (s : Step c α ε)
    (s' : Step c' α ε) : Prop where
  turn : s.turn = s'.turn
  ended : s.ended.undated = s'.ended.undated
  world : R s.ended.world s'.ended.world

theorem steps_ahead (hs : c.settings = c'.settings) (hw : c.world.Ahead d R c'.world)
    {events : List (Turn α ε × σ)} {events' : List (Turn α ε × σ')}
    (h : List.Forall₂ (fun event event' => event.1 = event'.1 ∧ R event.2 event'.2) events events') :
    List.Forall₂ (Step.SameButDates R) (c.steps .initial events) (c'.steps .initial events') := by
  let k := Coupling.ahead α ε hs hw
  have hevents : List.Forall₂ k.Events events events' := by
    refine h.imp fun event event' he => ⟨?_, he.2⟩
    rw [← he.1]
    exact Coupling.turns_refl (fun _ => rfl) (fun _ => rfl) event.1
  refine (Coupling.coupled_steps hevents Coupling.memories_initial).1.imp fun s s' hstep => ⟨?_, ?_, ?_⟩
  · exact Coupling.Turns.eq (fun _ _ hv => hv) (fun _ _ hf => hf) hstep.turn
  · exact hstep.ended.undated
  · exact hstep.ended.world

/-- The sessions of clients who do the same. -/
theorem performAll_ahead (hs : c.settings = c'.settings) (hw : c.world.Ahead d R c'.world)
    {move : ClockMove → σ → σ} {move' : ClockMove → σ' → σ'}
    (hmove : ∀ m a b, R a b → R (move m a) (move' m b)) {world : σ} {world' : σ'} (h : R world world')
    (actions : List (Action α ε)) :
    let run := Session.performAll c move actions (.start world)
    let run' := Session.performAll c' move' actions (.start world')
    Report.timelines run.1 = Report.timelines run'.1 ∧
      (Report.toldAll run.1).map (Prod.map Answer.undated Memory.undated) =
        (Report.toldAll run'.1).map (Prod.map Answer.undated Memory.undated) ∧
      run.2.memory.undated = run'.2.memory.undated ∧ R run.2.world run'.2.world := by
  intro run run'
  let k := Coupling.ahead α ε hs hw
  have hstart : k.Sessions (fun _ => k.Waits) (.start world) (.start world') :=
    ⟨Coupling.memories_initial, h, fun _ => .none⟩
  have hall : k.AllReports (fun _ => k.Waits) run run' :=
    Coupling.coupled_same (fun _ => rfl) (fun _ => rfl) (fun m a b => hmove m a b) actions hstart
  exact ⟨Coupling.notes_eq (fun _ _ hc => hc) hall.timeline,
    Coupling.told_eq (fun _ _ ha => ha.undated) (fun _ _ hm => hm.undated) hall.told,
    hall.session.memory.undated, hall.session.world⟩

end

/-- Only spans of time matter. Let two circuit breakers have the same settings, and let their listeners do
the same. Let whatever the monotonic clock of the second one shows be ahead of what that of the first one
shows by one and the same span, or behind it, and let clocks go backwards as they like; nothing at all is
said of the wall clocks. Then every run of the one and the run of the other with the same turns end every
turn the same: with the same result and what is left of a cooldown in it, the same lines of the log, the
same listeners, the same kind of state, count of failures and failure observed last. Only the dates in
snapshots differ. So it is for clients in sessions, whose operations make calls and whose futures wait. In
particular it is so if the clocks show given times, the `i`-th time that the one is read ahead of the `i`-th
time that the other is read. -/
theorem only_spans_matter (settings : Settings) (d : Int) :
    (∀ {σ σ' : Type} (w : World σ) (w' : World σ') (R : σ → σ' → Prop), w.Ahead d R w' →
      (∀ (events : List (Turn α ε × σ)) (events' : List (Turn α ε × σ')),
        List.Forall₂ (fun event event' => event.1 = event'.1 ∧ R event.2 event'.2) events events' →
        List.Forall₂ (Step.SameButDates R) ((⟨settings, w⟩ : Circuit σ).steps .initial events)
          ((⟨settings, w'⟩ : Circuit σ').steps .initial events')) ∧
      ∀ (move : ClockMove → σ → σ) (move' : ClockMove → σ' → σ'), (∀ m a b, R a b → R (move m a) (move' m b)) →
        ∀ (world : σ) (world' : σ') (actions : List (Action α ε)), R world world' →
        let run := Session.performAll ⟨settings, w⟩ move actions (.start world)
        let run' := Session.performAll ⟨settings, w'⟩ move' actions (.start world')
        Report.timelines run.1 = Report.timelines run'.1 ∧
          (Report.toldAll run.1).map (Prod.map Answer.undated Memory.undated) =
            (Report.toldAll run'.1).map (Prod.map Answer.undated Memory.undated) ∧
          run.2.memory.undated = run'.2.memory.undated ∧ R run.2.world run'.2.world) ∧
    ∀ {τ : Type} (notify : Kind → τ → Option String × τ) (listeners : τ) (nows nows' : Nat → Instant)
      (walls walls' : Nat → Timestamp), (∀ i, (nows i).Ahead d (nows' i)) → ∀ actions : List (Action α ε),
      let run := Session.performAll ⟨settings, .showing nows walls notify⟩ (fun _ r => r) actions
        (.start ⟨0, 0, listeners⟩)
      let run' := Session.performAll ⟨settings, .showing nows' walls' notify⟩ (fun _ r => r) actions
        (.start ⟨0, 0, listeners⟩)
      Report.timelines run.1 = Report.timelines run'.1 ∧
        (Report.toldAll run.1).map (Prod.map Answer.undated Memory.undated) =
          (Report.toldAll run'.1).map (Prod.map Answer.undated Memory.undated) ∧
        run.2.memory.undated = run'.2.memory.undated ∧ run.2.world = run'.2.world := by
  refine ⟨fun w w' R hw => ⟨fun events events' h => ?_, fun move move' hmove world world' actions h => ?_⟩, ?_⟩
  · exact steps_ahead ⟨settings, w⟩ ⟨settings, w'⟩ rfl hw h
  · exact performAll_ahead ⟨settings, w⟩ ⟨settings, w'⟩ rfl hw hmove h actions
  · intro τ notify listeners nows nows' walls walls' h actions
    exact performAll_ahead ⟨settings, .showing nows walls notify⟩ ⟨settings, .showing nows' walls' notify⟩ rfl
      (World.ahead_showing h walls walls' notify) (fun _ _ _ hr => hr) rfl actions

namespace Bench

/-- A clock that goes backwards until the cooldown is over. -/
def unsteady (i : Nat) : Instant := if i < 4 then ⟨5 - i⟩ else ⟨2000000⟩

/-- An attempt fails, the next one is refused, and the last one finds the circuit half-open. -/
def thrice : List (Action Unit String) :=
  [.attempt .running (.failure "down") [], .attempt .running (.ok ()) [], .attempt .running (.ok ()) []]

end Bench

/-- With a clock that is ahead by seven nanoseconds, and on another day, the same attempt is refused with the
same left of its cooldown, and the same attempt closes the circuit. -/
theorem only_spans_matter_unsteady :
    let settings := Bench.fragile.settings
    let silent (_ : Kind) (u : Unit) : Option String × Unit := (none, u)
    let late (i : Nat) : Instant := ⟨(Bench.unsteady i).nanos + 7⟩
    let day (_ : Nat) : Timestamp := .epoch
    let otherDay (_ : Nat) : Timestamp := ⟨86400, 0, by decide⟩
    let run := Session.performAll ⟨settings, .showing Bench.unsteady day silent⟩ (fun _ r => r) Bench.thrice
      (.start ⟨0, 0, ()⟩)
    let run' := Session.performAll ⟨settings, .showing late otherDay silent⟩ (fun _ r => r) Bench.thrice
      (.start ⟨0, 0, ()⟩)
    (∀ i, (Bench.unsteady i).Ahead 7 (late i)) ∧ Report.timelines run.1 = Report.timelines run'.1 ∧
      Report.timelines run'.1 =
        [.started, .logged (.opening .closed 1), .notified .opened, .logged (.rejecting .millisecond),
          .logged .turningHalfOpen, .notified .halfOpen, .started, .logged (.closing .halfOpen),
          .notified .closed] ∧
      run.2.memory.undated = run'.2.memory.undated := by
  intro settings silent late day otherDay run run'
  have hahead : ∀ i, (Bench.unsteady i).Ahead 7 (late i) := fun i => Int.natCast_add _ _
  obtain ⟨-, hshown⟩ := only_spans_matter (α := Unit) (ε := String) settings 7
  obtain ⟨htimeline, -, hmemory, -⟩ := hshown silent () Bench.unsteady late day otherDay hahead Bench.thrice
  exact ⟨hahead, htimeline, by decide, hmemory⟩

end CircuitBreaker
