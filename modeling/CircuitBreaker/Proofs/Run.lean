/-
Runs of a circuit breaker: turns in the order of time, each in surroundings of its own. Nothing is
assumed of the surroundings, so that any clients may come to their turns in any order, any clocks
may be read, and any listeners may run. `Orderly` runs are those in which clients record only what
has been admitted, and once.
-/
import CircuitBreaker.Bench
import CircuitBreaker.Proofs.Turn
import Mathlib.Data.List.DropRight

namespace CircuitBreaker

/-- A turn in a run: what was remembered before it, and what surrounded it. -/
structure Step {σ : Type} (c : Circuit σ) (α ε : Type) where
  turn : Turn α ε
  memory : Memory ε
  world : σ

namespace Step

variable {α ε σ : Type} {c : Circuit σ}

/-- How the turn ends. -/
def ended (s : Step c α ε) : Ended ε σ (Answer α ε) := s.turn.call c s.memory s.world

/-- What is remembered after the turn. -/
def next (s : Step c α ε) : Memory ε := s.ended.memory

/-- What happens in the turn. -/
def notes (s : Step c α ε) : List Note := s.ended.notes

/-- What the monotonic clock shows where the turn reads it first. -/
def now (s : Step c α ε) : Instant := (c.world.now s.world).1

/-- The kind of state that is entered in the turn, if one is: the state has changed, or has been
replaced by hand. -/
def entered? (s : Step c α ε) : Option Kind :=
  if s.turn.byHand = true ∨ s.next.state ≠ s.memory.state then some s.next.state.kind else none

/-- An attempt is admitted in the turn. -/
def Admits (s : Step c α ε) (attempt : Nat) : Prop :=
  (∃ form, s.turn = .admission attempt form) ∧ s.ended.result = .ok .waiting

/-- The outcome of an attempt is recorded in the turn. -/
def Records (s : Step c α ε) (attempt : Nat) : Prop := ∃ outcome, s.turn = .recording attempt outcome

end Step

namespace Circuit

variable {α ε σ : Type} (c : Circuit σ)

/-- The steps of a run, which is given by its turns and what surrounds each of them. -/
def steps (memory : Memory ε) : List (Turn α ε × σ) → List (Step c α ε)
  | [] => []
  | (turn, world) :: events =>
    let s : Step c α ε := ⟨turn, memory, world⟩
    s :: steps s.next events

/-- What is remembered after a run. -/
def after (memory : Memory ε) : List (Turn α ε × σ) → Memory ε
  | [] => memory
  | (turn, world) :: events => after (⟨turn, memory, world⟩ : Step c α ε).next events

end Circuit

/-! ## A circuit breaker at hand -/

namespace Bench

/-- A circuit breaker without listeners that opens at the first failure, for a millisecond. -/
def fragile : Circuit Bench :=
  ⟨⟨none, 1, .millisecond, by decide, by decide⟩, world .empty⟩

/-- Its surroundings at a reading of the monotonic clock. -/
def reading (nanos : Nat) : Bench := ⟨.scripted ⟨nanos⟩ .epoch, []⟩

end Bench

/-! ## One step -/

namespace Step

variable {α ε σ : Type} {c : Circuit σ} (s : Step c α ε)

theorem shift : Shift c s.now (c.wallAfterNow s.world) s.turn s.memory.core s.next.core :=
  shift_call c s.turn s.memory s.world

/-- A move that is not made by hand leads to another state. -/
theorem ne_of_target {turn : Turn α ε} {memory : Memory ε} {world : σ} {next : State}
    (h : c.target memory world turn = some next) (hb : turn.byHand = false) : next ≠ memory.state := by
  intro he
  cases turn with
  | forceOpen => cases hb
  | forceClose => cases hb
  | recording attempt outcome =>
    cases outcome with
    | ok a =>
      obtain ⟨hs, hn⟩ := State.onSuccess_eq_some h
      rw [he, hs] at hn; cases hn
    | error failure =>
      obtain ⟨hs, hn⟩ := State.onFailure_eq_some h
      rw [← he, hn] at hs; exact hs rfl
  | _ =>
    obtain ⟨hs, hn⟩ := State.refresh_eq_some h
    rw [← he, hn] at hs; cases hs

theorem target_ne_none {turn : Turn α ε} {memory : Memory ε} {world : σ} (hb : turn.byHand = true) :
    c.target memory world turn ≠ none := by
  cases turn with
  | forceOpen => nofun
  | forceClose => nofun
  | _ => cases hb

theorem entered?_eq : s.entered? = (c.target s.memory s.world s.turn).map State.kind := by
  have hs : s.next.state = (c.target s.memory s.world s.turn).getD s.memory.state := s.turn.state_call ..
  unfold entered?
  cases ht : c.target s.memory s.world s.turn with
  | none =>
    rw [ht] at hs
    rw [if_neg]
    · rfl
    · rintro (hb | hn)
      · exact target_ne_none hb ht
      · exact hn hs
  | some next =>
    rw [ht] at hs
    rw [hs]
    refine if_pos ?_
    cases hb : s.turn.byHand with
    | true => exact Or.inl rfl
    | false => exact Or.inr (ne_of_target ht hb)

theorem state_of_entered?_none (h : s.entered? = none) :
    s.turn.byHand = false ∧ s.next.state = s.memory.state := by
  unfold entered? at h
  split at h
  · cases h
  · next hn =>
    rw [not_or, Bool.not_eq_true, Decidable.not_not] at hn
    exact hn

theorem kind_of_entered? {kind : Kind} (h : s.entered? = some kind) :
    s.next.state.kind = kind ∧ (s.turn.byHand = true ∨ s.next.state ≠ s.memory.state) := by
  unfold entered? at h
  split at h
  · next hn => exact ⟨Option.some.inj h, hn⟩
  · cases h

/-- The listener of the state that is entered runs, once, and no other does. -/
theorem fired_notes : fired s.notes = s.entered?.toList := by
  rw [entered?_eq]
  refine (s.turn.fired_call ..).trans ?_
  cases c.target s.memory s.world s.turn <;> rfl

end Step

/-! ## Runs in parts -/

namespace Circuit

variable {α ε σ : Type} (c : Circuit σ)

theorem after_append : ∀ (early late : List (Turn α ε × σ)) (memory : Memory ε),
    c.after memory (early ++ late) = c.after (c.after memory early) late
  | [], _, _ => rfl
  | _ :: early, late, _ => after_append early late _

theorem steps_append : ∀ (early late : List (Turn α ε × σ)) (memory : Memory ε),
    c.steps memory (early ++ late) = c.steps memory early ++ c.steps (c.after memory early) late
  | [], _, _ => rfl
  | _ :: early, late, _ => congrArg _ (steps_append early late _)

theorem after_concat (events : List (Turn α ε × σ)) (turn : Turn α ε) (world : σ) (memory : Memory ε) :
    c.after memory (events ++ [(turn, world)]) =
      (⟨turn, c.after memory events, world⟩ : Step c α ε).next := by
  rw [after_append]; rfl

theorem steps_concat (events : List (Turn α ε × σ)) (turn : Turn α ε) (world : σ) (memory : Memory ε) :
    c.steps memory (events ++ [(turn, world)]) =
      c.steps memory events ++ [⟨turn, c.after memory events, world⟩] := by
  rw [steps_append]; rfl

/-- A step of a run begins with what the run up to it has left. -/
theorem steps_eq_append : ∀ {events : List (Turn α ε × σ)} {memory : Memory ε}
    {before : List (Step c α ε)} {s : Step c α ε} {rest : List (Step c α ε)},
    c.steps memory events = before ++ s :: rest →
    ∃ early late, events = early ++ (s.turn, s.world) :: late ∧ before = c.steps memory early ∧
      s.memory = c.after memory early ∧ rest = c.steps s.next late
  | [], _, before, _, _, h => by cases before <;> cases h
  | (turn, world) :: events, memory, [], s, rest, h => by
    cases h
    exact ⟨[], events, rfl, rfl, rfl, rfl⟩
  | (turn, world) :: events, memory, t :: before, s, rest, h => by
    obtain ⟨rfl, ht⟩ := List.cons.inj h
    obtain ⟨early, late, rfl, rfl, hs, hr⟩ := steps_eq_append ht
    exact ⟨(turn, world) :: early, late, rfl, rfl, hs, hr⟩

theorem mem_steps {events : List (Turn α ε × σ)} {memory : Memory ε} {s : Step c α ε}
    (h : s ∈ c.steps memory events) :
    ∃ early late, events = early ++ (s.turn, s.world) :: late ∧ s.memory = c.after memory early := by
  obtain ⟨before, rest, h⟩ := List.append_of_mem h
  obtain ⟨early, late, he, -, hs, -⟩ := c.steps_eq_append h
  exact ⟨early, late, he, hs⟩

/-- What holds at the start of a run and is kept by every step holds of every run, of its steps and
what it leaves together. -/
theorem steps_induction {motive : List (Step c α ε) → Memory ε → Prop} {memory : Memory ε}
    (start : motive [] memory) (step : ∀ steps s, motive steps s.memory → motive (steps ++ [s]) s.next)
    (events : List (Turn α ε × σ)) : motive (c.steps memory events) (c.after memory events) := by
  -- on the end of the run, so that each step finds what all the steps before it have left
  induction events using List.reverseRecOn with
  | nil => exact start
  | append_singleton events event ih =>
    obtain ⟨turn, world⟩ := event
    rw [steps_concat, after_concat]
    exact step _ ⟨turn, c.after memory events, world⟩ ih

end Circuit

/-! ## Attempts -/

section

variable {α ε σ : Type} {c : Circuit σ}

/-- An attempt is in flight after a run: it has been admitted, and its outcome is still to come. -/
def InFlight (steps : List (Step c α ε)) (attempt : Nat) : Prop :=
  (∃ s ∈ steps, s.Admits attempt) ∧ ∀ s ∈ steps, ¬ s.Records attempt

/-- The turn comes in order after others: an attempt that asks for admission has not been heard of,
and one whose outcome is recorded is in flight. -/
def Step.InOrder (s : Step c α ε) (before : List (Step c α ε)) : Prop :=
  match s.turn with
  | .admission attempt _ => ∀ t ∈ before, t.turn.attempt? ≠ some attempt
  | .recording attempt _ => InFlight before attempt
  | _ => True

/-- Attempts take their turns in order. This is what clients promise: an attempt is admitted, runs
its operation and records the outcome, each at most once. -/
def Orderly (steps : List (Step c α ε)) : Prop :=
  ∀ before s after, steps = before ++ s :: after → s.InOrder before

theorem orderly_nil : Orderly ([] : List (Step c α ε)) := by
  intro before s after h
  cases before <;> cases h

/-- What is asked of each element of a list and of those before it is asked of the last element, too. -/
theorem forall_splits_concat {β : Type} {P : List β → β → Prop} {l : List β} {last : β} :
    (∀ before b after, l ++ [last] = before ++ b :: after → P before b) ↔
      (∀ before b after, l = before ++ b :: after → P before b) ∧ P l last := by
  constructor
  · intro h
    refine ⟨fun before b after hl => h before b (after ++ [last]) ?_, h l last [] rfl⟩
    rw [hl, List.append_assoc, List.cons_append]
  · rintro ⟨h, hlast⟩ before b after hl
    -- the element in question is the last one, or one of the others
    rcases List.eq_nil_or_concat after with rfl | ⟨after, final, rfl⟩
    · obtain ⟨rfl, rfl⟩ := List.append_inj' hl rfl |>.imp id (List.cons.inj · |>.1)
      exact hlast
    · refine h before b after ?_
      rw [List.concat_eq_append, ← List.cons_append, ← List.append_assoc] at hl
      exact (List.append_inj' hl rfl).1

theorem orderly_concat {steps : List (Step c α ε)} {s : Step c α ε} :
    Orderly (steps ++ [s]) ↔ Orderly steps ∧ s.InOrder steps :=
  forall_splits_concat

/-- The steps that an attempt itself takes. -/
def stepsOf (attempt : Nat) (steps : List (Step c α ε)) : List (Step c α ε) :=
  steps.filter fun s => s.turn.attempt? = some attempt

theorem stepsOf_concat (attempt : Nat) (steps : List (Step c α ε)) (s : Step c α ε) :
    stepsOf attempt (steps ++ [s]) =
      stepsOf attempt steps ++ if s.turn.attempt? = some attempt then [s] else [] := by
  unfold stepsOf
  rw [List.filter_append]
  congr 1
  by_cases h : s.turn.attempt? = some attempt <;> simp [h]

/-- In order, an attempt takes its admission, and perhaps a recording after it. -/
theorem stepsOf_orderly {steps : List (Step c α ε)} (h : Orderly steps) (attempt : Nat) :
    stepsOf attempt steps = [] ∨
    (∃ s form, stepsOf attempt steps = [s] ∧ s.turn = .admission attempt form) ∨
    ∃ s t form, stepsOf attempt steps = [s, t] ∧ s.turn = .admission attempt form ∧ t.Records attempt := by
  induction steps using List.reverseRecOn with
  | nil => exact Or.inl rfl
  | append_singleton steps s ih =>
    obtain ⟨hsteps, hs⟩ := orderly_concat.1 h
    rw [stepsOf_concat]
    by_cases ha : s.turn.attempt? = some attempt
    · rw [if_pos ha]
      unfold Step.InOrder at hs
      split at hs
      · next asked form hturn =>
        obtain rfl : asked = attempt := by rw [hturn] at ha; exact Option.some.inj ha
        have hnone : stepsOf asked steps = [] :=
          List.filter_eq_nil_iff.2 fun t ht => by simpa using hs t ht
        exact Or.inr (Or.inl ⟨s, form, by rw [hnone]; rfl, hturn⟩)
      · next asked outcome hturn =>
        obtain rfl : asked = attempt := by rw [hturn] at ha; exact Option.some.inj ha
        obtain ⟨⟨u, hu, ⟨_, hform⟩, -⟩, hnot⟩ := hs
        rcases ih hsteps with hnil | ⟨t, form, hone, ht⟩ | ⟨_, t, _, htwo, _, ht⟩
        · have hmem : u ∈ stepsOf asked steps := List.mem_filter.2 ⟨hu, by rw [hform]; simp [Turn.attempt?]⟩
          rw [hnil] at hmem; cases hmem
        · exact Or.inr (Or.inr ⟨t, s, form, by rw [hone]; rfl, ht, outcome, hturn⟩)
        · -- an attempt that has been recorded is not recorded again
          have hmem : t ∈ stepsOf asked steps := by rw [htwo]; simp
          exact absurd ht (hnot t (List.mem_filter.1 hmem).1)
      · next ho hr =>
        cases hturn : s.turn with
        | admission b form => exact absurd hturn (ho b form)
        | recording b outcome => exact absurd hturn (hr b outcome)
        | _ => rw [hturn] at ha; cases ha
    · rw [if_neg ha, List.append_nil]
      exact ih hsteps

end

/-! ## Deciding order -/

namespace Turn

variable {α ε : Type}

/-- The attempt that asks for admission. -/
def asks? : Turn α ε → Option Nat
  | admission attempt _ => some attempt
  | _ => none

/-- The attempt whose outcome is recorded. -/
def records? : Turn α ε → Option Nat
  | recording attempt _ => some attempt
  | _ => none

theorem asks?_eq_some {turn : Turn α ε} {attempt : Nat} :
    turn.asks? = some attempt ↔ ∃ form, turn = .admission attempt form := by
  cases turn <;> simp [asks?]

theorem records?_eq_some {turn : Turn α ε} {attempt : Nat} :
    turn.records? = some attempt ↔ ∃ outcome, turn = .recording attempt outcome := by
  cases turn <;> simp [records?]

end Turn

section

variable {α ε σ : Type} {c : Circuit σ}

/-- Whether an attempt goes on to wait for its outcome. -/
def waits : Except String (Answer α ε) → Bool
  | .ok .waiting => true
  | _ => false

theorem waits_iff {result : Except String (Answer α ε)} : waits result = true ↔ result = .ok .waiting := by
  unfold waits
  split <;> simp_all

instance (s : Step c α ε) (attempt : Nat) : Decidable (s.Admits attempt) :=
  decidable_of_iff (s.turn.asks? = some attempt ∧ waits s.ended.result = true)
    (and_congr Turn.asks?_eq_some waits_iff)

instance (s : Step c α ε) (attempt : Nat) : Decidable (s.Records attempt) :=
  decidable_of_iff (s.turn.records? = some attempt) Turn.records?_eq_some

instance (steps : List (Step c α ε)) (attempt : Nat) : Decidable (InFlight steps attempt) :=
  inferInstanceAs (Decidable (_ ∧ _))

instance (s : Step c α ε) (before : List (Step c α ε)) : Decidable (s.InOrder before) :=
  match s with
  | ⟨.admission attempt _, _, _⟩ => inferInstanceAs (Decidable (∀ t ∈ before, t.turn.attempt? ≠ some attempt))
  | ⟨.recording attempt _, _, _⟩ => inferInstanceAs (Decidable (InFlight before attempt))
  | ⟨.kind, _, _⟩ | ⟨.snapshot, _, _⟩ | ⟨.forceOpen, _, _⟩ | ⟨.forceClose, _, _⟩ => isTrue trivial

/-- What is asked of each element of a list and of those before it is asked at each index. -/
theorem forall_splits_iff {β : Type} {P : List β → β → Prop} {l : List β} :
    (∀ before b after, l = before ++ b :: after → P before b) ↔
      ∀ i, ∀ h : i < l.length, P (l.take i) l[i] := by
  constructor
  · intro h i hi
    refine h (l.take i) l[i] (l.drop (i + 1)) ?_
    rw [← List.drop_eq_getElem_cons, List.take_append_drop]
  · rintro h before b after rfl
    have hb := h before.length (by simp)
    simpa using hb

theorem orderly_iff {steps : List (Step c α ε)} :
    Orderly steps ↔ ∀ i, ∀ h : i < steps.length, steps[i].InOrder (steps.take i) :=
  forall_splits_iff

instance (steps : List (Step c α ε)) : Decidable (Orderly steps) := decidable_of_iff _ orderly_iff.symm

end

end CircuitBreaker
