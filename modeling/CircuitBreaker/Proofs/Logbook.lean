/-
The log as the history of a circuit breaker. A turn logs one line at most: its transition, right before
the listener runs, the rejection that it answers with, or that an outcome has come too late. Read one
after the other, the lines above debug level go from state to state as the circuit does, and the last of
them tells in which kind of state it is.
-/
import CircuitBreaker.Proofs.Counting
import CircuitBreaker.Proofs.Faithful
import CircuitBreaker.Proofs.Stragglers
import CircuitBreaker.Proofs.Transitions

namespace CircuitBreaker

/-! ## Lines -/

namespace LogEntry

end LogEntry

/-- A line as it stands in the log: how much it matters, and its text. -/
structure Line where
  level : Level
  text : String
deriving DecidableEq, Repr

/-- The line that is logged for the circuit breaker with these settings. -/
def LogEntry.line (settings : Settings) (entry : LogEntry) : Line := ⟨entry.level, entry.message settings⟩

/-- The line that is logged, if one is. -/
def Note.entry? : Note → Option LogEntry
  | logged entry => some entry
  | _ => none

/-- The lines that are logged in the course of what happens, in the order of time. -/
def entries (notes : List Note) : List LogEntry := notes.filterMap Note.entry?

variable {α ε σ : Type} {c : Circuit σ}

/-! ## The lines of one turn -/

/-- The rejection that a turn answers with, if it does. -/
def rejection? : Except String (Answer α ε) → Option (Rejection ε)
  | .ok (.refused (.rejected r)) => some r
  | _ => none

/-- After its move a turn logs no line but for the rejection that it answers with. -/
theorem entries_conclude (turn : Turn α ε) (memory : Memory ε) (world : σ) :
    entries (c.conclude turn memory world).notes =
      ((rejection? (c.conclude turn memory world).result).map fun r => .rejecting r.remaining).toList := by
  cases turn with
  | admission attempt form =>
    cases ha : memory.state.admits with
    | true =>
      have hd := c.decision_of_admits ha world
      have hc : c.conclude (.admission attempt form : Turn α ε) memory world = _ := Call.bind_ok (by rw [hd])
      rw [hc, hd, Turn.respond_none]
      cases form <;> rfl
    | false =>
      have hd := c.decision_of_rejects ha world
      have hc : c.conclude (.admission attempt form : Turn α ε) memory world = _ := Call.bind_ok (by rw [hd])
      rw [hc, hd]
      rfl
  | recording attempt outcome => cases outcome <;> rfl
  | kind | snapshot | forceOpen | forceClose => rfl

namespace Step

/-- The line for the transition that a step makes to a state of this kind. It names the state that was left,
and the count of failures that the transition leaves. -/
def entry (s : Step c α ε) (kind : Kind) : LogEntry := .ofTransition s.memory.state.kind kind s.next.failures

/-- A step moves first, if it makes a transition, and all that it logs later is its rejection. -/
theorem notes_eq (s : Step c α ε) :
    ∃ rest, s.notes = s.turn.lead s.memory.state ++
        (s.entered?.toList.flatMap fun kind => [.logged (s.entry kind), .notified kind]) ++ rest ∧
      entries rest = ((rejection? s.ended.result).map fun r => .rejecting r.remaining).toList := by
  have hmove : c.opening s.memory s.world s.turn = s.turn.lead s.memory.state ++
      s.entered?.toList.flatMap fun kind => [.logged (s.entry kind), .notified kind] := by
    have hcount : s.next.failures = ((s.turn.primed s.memory).move (c.target s.memory s.world s.turn)).failures :=
      congrArg Prod.snd (s.turn.core_call c s.memory s.world)
    unfold Circuit.opening entry
    rw [s.entered?_eq, hcount]
    cases c.target s.memory s.world s.turn with
    | none => rfl
    | some next => simp [Memory.moveNotes, Memory.move]
  rw [← hmove]
  cases hh : (c.heard s.memory s.world s.turn).1 with
  | some text =>
    have hended : s.ended = _ := Turn.call_of_panic c hh
    refine ⟨[], ?_, ?_⟩
    · simp [notes, hended]
    · simp [hended, entries, rejection?]
  | none =>
    have hended : s.ended = _ := Turn.call_of_returns c hh
    refine ⟨(c.conclude s.turn (c.moved s.memory s.world s.turn) (c.heard s.memory s.world s.turn).2).notes, ?_, ?_⟩
    · rw [notes, hended]
      rfl
    · rw [hended]
      exact entries_conclude s.turn _ _

end Step

/-! ## The log of a run -/

/-- The lines of a run, in the order of time. -/
def log (steps : List (Step c α ε)) : List LogEntry := entries (steps.flatMap Step.notes)

/-- A failure opens the circuit, a query turns it half-open, and the success of a call admitted long before
closes it. -/
example : log (Bench.fragile.steps (.initial : Memory String) Bench.straggling) =
    [.opening .closed 1, .turningHalfOpen, .closing .halfOpen] := by
  decide

end CircuitBreaker
