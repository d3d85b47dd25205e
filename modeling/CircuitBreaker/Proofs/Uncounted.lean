/-
The count of failures outside the closed state. A circuit breaker that is open or half-open does not act
on its count, it only tells it. So circuit breakers that differ in nothing but the count do the same, step
by step, as long as neither is closed; and whichever way they get closed, the count starts again in both,
and from then on nothing is left to tell them apart.
-/
import CircuitBreaker.Proofs.Counting
import CircuitBreaker.Proofs.SessionsAlike

namespace CircuitBreaker

variable {α ε σ : Type} {c : Circuit σ}

/-! ## Leaving out the count -/

def Memory.uncounted (memory : Memory ε) : Memory ε := { memory with failures := 0 }

/-- Only snapshots tell the count. -/
def Answer.uncounted : Answer α ε → Answer α ε
  | snapshot s => snapshot { s with failures := 0 }
  | answer => answer

/-- Only the line of an opening tells the count. -/
def Note.uncounted : Note → Note
  | logged (.opening source _) => logged (.opening source 0)
  | n => n

def Ended.uncounted (ended : Ended ε σ (Answer α ε)) : Ended ε σ (Answer α ε) where
  result := ended.result.map Answer.uncounted
  memory := ended.memory.uncounted
  world := ended.world
  notes := ended.notes.map Note.uncounted

theorem Memory.eq_of_uncounted {memory memory' : Memory ε} (h : memory.uncounted = memory'.uncounted)
    (hf : memory.failures = memory'.failures) : memory = memory' := by
  obtain ⟨state, failures, last⟩ := memory
  obtain ⟨hstate, -, hlast⟩ := Memory.mk.inj h
  obtain rfl : state = _ := hstate
  obtain rfl : last = _ := hlast
  obtain rfl : failures = _ := hf
  rfl

/-! ## Circuit breakers that differ in the count -/

namespace Coupling

/-- The circuit breaker next to itself, with any two counts outside the closed state. -/
def uncounted (α ε : Type) (c : Circuit σ) : Coupling α α ε ε c c :=
  { Coupling.same α ε c with
    counts := fun _ _ => True
    counts_refl := fun _ => trivial }

theorem memories_uncounted {memory memory' : Memory ε} (h : memory.uncounted = memory'.uncounted)
    (hs : memory.state ≠ .closed) : (uncounted α ε c).Memories memory memory' := by
  obtain ⟨hstate, -, hlast⟩ := Memory.mk.inj h
  exact ⟨hstate ▸ states_refl (fun _ => rfl) (fun _ => rfl) _, trivial, fun hc => absurd hc hs, hlast⟩

theorem Memories.uncounted {memory memory' : Memory ε} (h : (uncounted α ε c).Memories memory memory') :
    memory.uncounted = memory'.uncounted := by
  unfold Memory.uncounted
  rw [h.state.eq (fun _ _ he => he) fun _ _ he => he, show memory.lastFailure = _ from h.last]

theorem Notes.uncounted {n n' : Note} (h : (uncounted α ε c).Notes n n') : n.uncounted = n'.uncounted := by
  cases h with
  | same => rfl
  | opening => rfl

theorem Answers.uncounted {answer answer' : Answer α ε} (h : (uncounted α ε c).Answers answer answer') :
    answer.uncounted = answer'.uncounted := by
  cases h with
  | succeeded h => rw [show _ = _ from h]
  | failed h => rw [show _ = _ from h]
  | rejected h => rw [h.eq fun _ _ hl => hl]
  | @snapshot s s' h =>
    obtain ⟨hopened, hcaptured⟩ := h.dates fun _ _ ht => ht
    obtain ⟨f, f', hlast, hs, hs'⟩ := h.last
    obtain rfl : f = f' := hlast
    refine congrArg Answer.snapshot ?_
    rw [← h.rest, ← hopened, hs', ← hs, ← hcaptured]
  | _ => rfl

theorem Endings.uncounted {ended ended' : Ended ε σ (Answer α ε)}
    (h : (uncounted α ε c).Endings (uncounted α ε c).Answers ended ended') :
    ended.uncounted = ended'.uncounted := by
  unfold Ended.uncounted
  rw [h.result.map_eq fun _ _ ha => ha.uncounted, h.memory.uncounted, show ended.world = _ from h.world,
    map_eq_of_forall₂ (fun _ _ hn => hn.uncounted) h.notes]

end Coupling

/-! ## Getting closed -/

/-- Whichever way the closed state is entered, the count from before is nowhere to be seen. -/
theorem Step.ended_of_closes {s s' : Step c α ε} (hturn : s'.turn = s.turn) (hworld : s'.world = s.world)
    (hmemory : s.memory.uncounted = s'.memory.uncounted) (h : s.entered? = some .closed) :
    s'.ended = s.ended := by
  obtain ⟨turn, ⟨state, failures, last⟩, world⟩ := s
  obtain ⟨turn', ⟨state', failures', last'⟩, world'⟩ := s'
  obtain ⟨hstate, -, hlast⟩ := Memory.mk.inj hmemory
  obtain rfl : turn' = turn := hturn
  obtain rfl : world' = world := hworld
  obtain rfl : state = state' := hstate
  obtain rfl : last = last' := hlast
  rcases (Step.shift _).closes_iff.1 (Step.entered?_eq_closed.1 h) with rfl | ⟨hs, attempt, a, rfl⟩
  · rfl
  · obtain rfl : state = .halfOpen := hs
    rfl

section

variable {memory memory' : Memory ε}

theorem steps_uncounted (h : memory.uncounted = memory'.uncounted) (hs : memory.state ≠ .closed)
    (events : List (Turn α ε × σ)) :
    (c.steps memory events).map (·.ended.uncounted) = (c.steps memory' events).map (·.ended.uncounted) ∧
      (c.after memory events).uncounted = (c.after memory' events).uncounted := by
  have hevents : List.Forall₂ (Coupling.uncounted α ε c).Events events events :=
    List.forall₂_same.2 fun event _ => ⟨Coupling.turns_refl (fun _ => rfl) (fun _ => rfl) event.1, rfl⟩
  obtain ⟨hsteps, hafter⟩ := Coupling.coupled_steps hevents (Coupling.memories_uncounted h hs)
  exact ⟨map_eq_of_forall₂ (fun _ _ hstep => hstep.ended.uncounted) hsteps, hafter.uncounted⟩

/-- Where a run enters the closed state, another one that differs from it in the count enters it too, and
they are the same run from then on. -/
theorem steps_of_closes (h : memory.uncounted = memory'.uncounted) (hs : memory.state ≠ .closed)
    {events : List (Turn α ε × σ)} {before after : List (Step c α ε)} {s : Step c α ε}
    (he : c.steps memory events = before ++ s :: after) (hc : s.entered? = some .closed) :
    ∃ before' s', c.steps memory' events = before' ++ s' :: after ∧ before'.length = before.length ∧
      s'.ended = s.ended := by
  obtain ⟨early, late, rfl, rfl, hmemory, rfl⟩ := c.steps_eq_append he
  let s' : Step c α ε := ⟨s.turn, c.after memory' early, s.world⟩
  obtain ⟨hsteps, hafter⟩ := steps_uncounted (c := c) h hs early
  have hended : s'.ended = s.ended := Step.ended_of_closes rfl rfl (hmemory ▸ hafter) hc
  have hnext : s'.next = s.next := congrArg Ended.memory hended
  refine ⟨c.steps memory' early, s', ?_, ?_, hended⟩
  · rw [c.steps_append, ← hnext]
    rfl
  · have hlength := congrArg List.length hsteps
    rw [List.length_map, List.length_map] at hlength
    exact hlength.symm

/-- Sessions that differ in the count outside the closed state go on so, and are alike once they are closed. -/
theorem performAll_uncounted (h : memory.uncounted = memory'.uncounted) (hs : memory.state ≠ .closed)
    (move : ClockMove → σ → σ) (world : σ) (calls : List (String × Pending α ε)) (actions : List (Action α ε)) :
    let run := Session.performAll c move actions ⟨memory, world, calls⟩
    let run' := Session.performAll c move actions ⟨memory', world, calls⟩
    (Coupling.uncounted α ε c).AllReports (fun _ => (Coupling.uncounted α ε c).Waits) run run' ∧
      (run.2.memory.state = .closed → run.2.Alike Eq (fun _ => Eq) run'.2) := by
  intro run run'
  let k := Coupling.uncounted α ε c
  have hsessions : k.Sessions (fun _ => k.Waits) ⟨memory, world, calls⟩ ⟨memory', world, calls⟩ :=
    ⟨Coupling.memories_uncounted h hs, rfl, fun _ => Coupling.waits_refl (fun _ => rfl) (fun _ => rfl) _⟩
  have hall : k.AllReports (fun _ => k.Waits) run run' :=
    Coupling.coupled_same (fun _ => rfl) (fun _ => rfl) (fun m _ _ hw => congrArg (move m) hw) actions hsessions
  refine ⟨hall, fun hc => ?_⟩
  have hmemory : run.2.memory = run'.2.memory :=
    Memory.eq_of_uncounted hall.session.memory.uncounted (hall.session.memory.counted hc)
  refine ⟨hmemory ▸ ⟨rfl, rfl⟩, hall.session.world, fun id => ?_⟩
  exact Coupling.waits_eq (fun _ _ h => h) (fun _ _ h => h) (hall.session.calls id)

end

/-! ## The count is not looked at -/

/-- The count of failures is not looked at outside the closed state. Let a circuit breaker be open or
half-open, and another one, with the same settings, listeners and clocks, differ from it in nothing but the
count. In every run, whatever turns attempts and others take in whatever order and surroundings, they end
every turn with the same answer, the same state and failure observed last, the same surroundings and the
same notices, but for the count where a snapshot or the line of an opening tells it. Where the one enters
the closed state, by hand or by a success, the other one enters it in the same turn, which ends the same
in all, and from then on it is the same run, the counts included. So it is for clients in sessions, whose
operations make calls and whose futures wait: they are told the same but for the count, and once the
circuit is closed, what they do then ends the same in all. -/
theorem count_unread (c : Circuit σ) (move : ClockMove → σ → σ) (memory : Memory ε)
    (h : memory.state ≠ .closed) (n : UInt32) :
    let other : Memory ε := { memory with failures := n }
    (∀ events : List (Turn α ε × σ),
      (c.steps memory events).map (·.ended.uncounted) = (c.steps other events).map (·.ended.uncounted) ∧
      ∀ before s after, c.steps memory events = before ++ s :: after → s.entered? = some .closed →
        ∃ before' s', c.steps other events = before' ++ s' :: after ∧ before'.length = before.length ∧
          s'.ended = s.ended) ∧
    ∀ (world : σ) (calls : List (String × Pending α ε)) (actions : List (Action α ε)),
      let run := Session.performAll c move actions ⟨memory, world, calls⟩
      let run' := Session.performAll c move actions ⟨other, world, calls⟩
      (Report.timelines run.1).map Note.uncounted = (Report.timelines run'.1).map Note.uncounted ∧
      (Report.toldAll run.1).map (Prod.map Answer.uncounted Memory.uncounted) =
        (Report.toldAll run'.1).map (Prod.map Answer.uncounted Memory.uncounted) ∧
      run.2.memory.uncounted = run'.2.memory.uncounted ∧ run.2.world = run'.2.world ∧
      (run.2.memory.state = .closed → run.2.memory = run'.2.memory ∧ ∀ late : List (Action α ε),
        let rest := Session.performAll c move late run.2
        let rest' := Session.performAll c move late run'.2
        Report.timelines rest.1 = Report.timelines rest'.1 ∧ Report.toldAll rest.1 = Report.toldAll rest'.1 ∧
          rest.2.memory = rest'.2.memory ∧ rest.2.world = rest'.2.world) := by
  intro other
  have hother : memory.uncounted = other.uncounted := rfl
  refine ⟨fun events => ⟨(steps_uncounted hother h events).1, fun before s after he hc => ?_⟩, ?_⟩
  · exact steps_of_closes hother h he hc
  · intro world calls actions run run'
    obtain ⟨hall, hclosed⟩ := performAll_uncounted hother h move world calls actions
    refine ⟨map_eq_of_forall₂ (fun _ _ hn => hn.uncounted) hall.timeline,
      Coupling.told_eq (fun _ _ ha => ha.uncounted) (fun _ _ hm => hm.uncounted) hall.told,
      hall.session.memory.uncounted, hall.session.world, fun hc => ⟨(hclosed hc).memory.eq, fun late => ?_⟩⟩
    have hlate : Report.AllAlike Eq (fun _ => Eq) (Session.performAll c move late run.2)
        (Session.performAll c move late run'.2) :=
      (hclosed hc).performAll (fun _ => rfl) late fun _ _ => rfl
    exact ⟨hlate.timeline, told_eq_of_alike hlate.told, hlate.session.memory.eq, hlate.session.world⟩

namespace Bench

/-- A failure is recorded, which opens the circuit again, and a snapshot tells how many there have been. Then
the circuit is closed by hand, and fails once more. -/
def relapsing : List (Turn Unit String × Bench) :=
  [(.recording 0 (.error "down"), reading 0), (.snapshot, reading 0), (.forceClose, reading 0),
    (.recording 1 (.error "down"), reading 0)]

end Bench

/-- A half-open circuit that has counted seven failures does the same as one that has counted one, and tells
seven where that tells one. Once they are closed both open at the next failure. -/
theorem count_unread_fragile :
    let memory : Memory String := ⟨.halfOpen, 7, none⟩
    let other : Memory String := { memory with failures := 1 }
    memory.state ≠ .closed ∧
      (Bench.fragile.steps memory Bench.relapsing).map (·.ended.uncounted) =
        (Bench.fragile.steps other Bench.relapsing).map (·.ended.uncounted) ∧
      (Bench.fragile.steps memory Bench.relapsing).map (·.next.failures) = [7, 7, 0, 1] ∧
      (Bench.fragile.steps other Bench.relapsing).map (·.next.failures) = [1, 1, 0, 1] ∧
      ∃ before' s', Bench.fragile.steps other Bench.relapsing =
        before' ++ s' :: (Bench.fragile.steps memory Bench.relapsing).drop 3 := by
  intro memory other
  have hs : memory.state ≠ .closed := nofun
  obtain ⟨hruns, -⟩ := count_unread (α := Unit) Bench.fragile Bench.move memory hs 1
  obtain ⟨hsame, hcloses⟩ := hruns Bench.relapsing
  let s : Step Bench.fragile Unit String :=
    ⟨.forceClose, Bench.fragile.after memory (Bench.relapsing.take 2), Bench.reading 0⟩
  obtain ⟨before', s', hsteps, -⟩ := hcloses ((Bench.fragile.steps memory Bench.relapsing).take 2) s
    ((Bench.fragile.steps memory Bench.relapsing).drop 3) rfl (by decide)
  exact ⟨hs, hsame, by decide, by decide, before', s', hsteps⟩

end CircuitBreaker
