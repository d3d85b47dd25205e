/-
Outcomes that come after the circuit has opened. Their attempts were admitted before it opened. They
leave the state and the count of failures alone and run no listener, whether or not the cooldown has
passed; and but for the failure observed last the run goes on as if they had not been recorded.
-/
import CircuitBreaker.Proofs.Alike
import CircuitBreaker.Proofs.Probes

namespace CircuitBreaker

variable {α ε σ : Type} {c : Circuit σ}

/-- What an outcome that comes too late leaves of what was remembered: all of it, but that a failure is
the one observed last. -/
def Memory.keeping (memory : Memory ε) : Except ε α → Memory ε
  | .ok _ => memory
  | .error failure => { memory with lastFailure := some failure }

theorem Memory.alike_keeping (memory : Memory ε) (outcome : Except ε α) :
    (memory.keeping outcome).Alike Whichever memory := by
  cases outcome <;> exact ⟨rfl, trivial⟩

/-- An open circuit logs that an outcome comes too late, and answers with it. -/
theorem Step.ended_of_straggler {s : Step c α ε} {attempt : Nat} {outcome : Except ε α}
    (ht : s.turn = .recording attempt outcome) (hk : s.memory.state.kind = .opened) :
    s.ended.result = .ok (Session.answerOf (outcome.mapError .failed)) ∧
    s.next = s.memory.keeping outcome ∧ s.notes = [.logged .lateOutcome] := by
  obtain ⟨turn, ⟨state, failures, last⟩, world⟩ := s
  obtain rfl : turn = _ := ht
  cases state with
  | opened entered wall => cases outcome <;> exact ⟨rfl, rfl, rfl⟩
  | closed | halfOpen => cases hk

/-- Outcomes that come after the circuit has opened are inert. Let the outcome of an attempt be recorded
in an open state, whenever that was entered, after any run from the start. The answer is the outcome, and
all that happens is that a line is logged. The state, the count of failures and, after a success, the
failure observed last stay as they were; a failure becomes the one observed last. Every run that may
follow goes on step by step as it would have gone on without the recording, from the same state and count
to the same, with the same notices and the same answers but for what these tell of the failure observed
last. And if attempts take their turns in order, this one was admitted before the circuit was opened last. -/
theorem stragglers_inert (c : Circuit σ) (events : List (Turn α ε × σ)) (attempt : Nat)
    (outcome : Except ε α) (world : σ) (hk : (c.after (.initial : Memory ε) events).state.kind = .opened) :
    let s : Step c α ε := ⟨.recording attempt outcome, c.after .initial events, world⟩
    s.ended.result = .ok (Session.answerOf (outcome.mapError .failed)) ∧
    s.next = s.memory.keeping outcome ∧ s.notes = [.logged .lateOutcome] ∧ fired s.notes = [] ∧
    (∀ later : List (Turn α ε × σ),
      List.Forall₂ (Step.Alike Whichever id) (c.steps s.next later) (c.steps s.memory later) ∧
      (c.after s.next later).Alike Whichever (c.after s.memory later)) ∧
    (Orderly (c.steps .initial events ++ [s]) →
      ∃ early entry period, Since .opened (c.steps .initial events) early entry period ∧
        ∃ t ∈ early, t.Admits attempt) := by
  intro s
  obtain ⟨hresult, hnext, hnotes⟩ := Step.ended_of_straggler (s := s) rfl hk
  refine ⟨hresult, hnext, hnotes, by rw [hnotes]; rfl, fun later => ?_, fun ho => ?_⟩
  · refine steps_alike (fun _ => trivial) c.world.told_id later ?_
    rw [hnext]
    exact s.memory.alike_keeping outcome
  · have hflight : InFlight (c.steps .initial events) attempt := (orderly_concat.1 ho).2
    have hclosed : (Memory.initial : Memory ε).state.kind ≠ .opened := nofun
    obtain ⟨early, entry, period, hsince⟩ := exists_since events hclosed hk
    exact ⟨early, entry, period, hsince, (hflight.of_since_opened hsince).1⟩

namespace Bench

/-- Two attempts are admitted, and the second one fails and opens the circuit. -/
def outrun : List (Turn Unit String × Bench) := straggling.take 3

end Bench

/-- The first of the attempts fails after the cooldown. The next attempt is admitted as if it had not. -/
theorem stragglers_inert_outrun :
    (Bench.fragile.after (.initial : Memory String) Bench.outrun).state.kind = .opened ∧
    let s : Step Bench.fragile Unit String :=
      ⟨.recording 0 (.error "late"), Bench.fragile.after .initial Bench.outrun, Bench.reading 2000000⟩
    Orderly (Bench.fragile.steps .initial Bench.outrun ++ [s]) ∧ fired s.notes = [] ∧
      (∀ later : List (Turn Unit String × Bench),
        (Bench.fragile.after s.next later).Alike Whichever (Bench.fragile.after s.memory later)) ∧
      ∃ early entry period, Since .opened (Bench.fragile.steps .initial Bench.outrun) early entry period ∧
        ∃ t ∈ early, t.Admits 0 := by
  have hk : (Bench.fragile.after (.initial : Memory String) Bench.outrun).state.kind = .opened := by decide
  obtain ⟨-, -, -, hfired, hlater, horder⟩ :=
    stragglers_inert Bench.fragile Bench.outrun 0 (.error "late") (Bench.reading 2000000) hk
  have ho : Orderly (Bench.fragile.steps .initial Bench.outrun ++
      [⟨.recording 0 (.error "late"), Bench.fragile.after .initial Bench.outrun, Bench.reading 2000000⟩]) := by
    decide
  exact ⟨hk, ho, hfired, fun later => (hlater later).2, horder ho⟩

end CircuitBreaker
