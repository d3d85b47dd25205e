/-
The count of failures: it is the number of failures recorded in the closed state since that was
entered last, stays below the threshold while the circuit is closed, and opens the circuit exactly
where it reaches the threshold. Late outcomes and panicking listeners do not disturb it.
-/
import CircuitBreaker.Proofs.Run

namespace CircuitBreaker

variable {α ε σ : Type} {c : Circuit σ}

/-- A failure is recorded while the circuit is closed. -/
def Step.failsClosed (s : Step c α ε) : Bool := s.memory.state = .closed && s.turn.fails

/-- The steps since the closed state was entered last: all of them, if it was not entered again. -/
def sinceClosed (steps : List (Step c α ε)) : List (Step c α ε) :=
  steps.rtakeWhile fun s => s.entered? ≠ some .closed

/-! ## One step -/

/-- Below the threshold one more failure is counted exactly: there is no largest number in the way. -/
theorem toNat_bump_of_lt {n threshold : UInt32} (h : n < threshold) :
    (State.bump n).toNat = n.toNat + 1 := by
  have := threshold.toNat_lt_size
  have : n.toNat < threshold.toNat := h
  rw [State.toNat_bump]
  omega

theorem bump_le_of_lt {n threshold : UInt32} (h : n < threshold) : State.bump n ≤ threshold := by
  show (State.bump n).toNat ≤ threshold.toNat
  rw [toNat_bump_of_lt h]
  exact h

/-- Entering the closed state starts the count again, a failure in it is counted, and nothing else
changes the count. -/
theorem Shift.snd_eq {now : Instant} {wall : Timestamp} {turn : Turn α ε} {before after : State × UInt32}
    (h : Shift c now wall turn before after) :
    after.2 =
      if after.1 = .closed ∧ (turn.byHand = true ∨ after.1 ≠ before.1) then 0
      else if before.1 = .closed ∧ turn.fails = true then State.bump before.2 else before.2 := by
  cases h with
  | waits hr => simp [Turn.byHand_of_refreshes hr, Turn.fails_of_refreshes hr]
  | promotes hr => simp
  | passes => simp [Turn.byHand, Turn.fails]
  | recovers => simp
  | counts => simp [Turn.byHand, Turn.fails]
  | trips => simp [Turn.fails]
  | relapses => simp
  | straggles => simp
  | forcesOpen => simp [Turn.fails]
  | forcesClosed => simp [Turn.byHand]

/-- A failure in the closed state is counted, and opens the circuit if the count then reaches the
threshold. -/
theorem Shift.of_fails_closed {now : Instant} {wall : Timestamp} {turn : Turn α ε} {n : UInt32}
    {after : State × UInt32} (h : Shift c now wall turn (.closed, n) after) (hf : turn.fails = true) :
    after = if c.settings.threshold ≤ State.bump n then (.opened now wall, State.bump n)
      else (.closed, State.bump n) := by
  cases h with
  | waits hr => rw [Turn.fails_of_refreshes hr] at hf; cases hf
  | counts hn => exact (if_neg (UInt32.not_le.2 hn)).symm
  | trips hn => exact (if_pos hn).symm
  | passes | forcesOpen | forcesClosed => cases hf

/-- The count stays within the threshold, and below it in the closed state. -/
theorem Shift.within {now : Instant} {wall : Timestamp} {turn : Turn α ε} {before after : State × UInt32}
    (h : Shift c now wall turn before after) (hle : before.2 ≤ c.settings.threshold)
    (hlt : before.1 = .closed → before.2 < c.settings.threshold) :
    after.2 ≤ c.settings.threshold ∧ (after.1 = .closed → after.2 < c.settings.threshold) := by
  have hpos : (0 : UInt32) < c.settings.threshold := c.settings.threshold_pos
  cases h with
  | waits | passes => exact ⟨hle, hlt⟩
  | promotes | relapses | straggles | forcesOpen => exact ⟨hle, nofun⟩
  | recovers | forcesClosed => exact ⟨UInt32.le_of_lt hpos, fun _ => hpos⟩
  | counts hn => exact ⟨UInt32.le_of_lt hn, fun _ => hn⟩
  | trips => exact ⟨bump_le_of_lt (hlt rfl), nofun⟩

/-- Where the circuit is not opened by hand, the closed state is left with a full count, which is
kept until it is entered again. -/
theorem Shift.full {now : Instant} {wall : Timestamp} {turn : Turn α ε} {before after : State × UInt32}
    (h : Shift c now wall turn before after) (hturn : turn ≠ .forceOpen)
    (hlt : before.1 = .closed → before.2 < c.settings.threshold)
    (hfull : before.1 ≠ .closed → before.2 = c.settings.threshold) :
    after.1 ≠ .closed → after.2 = c.settings.threshold := by
  cases h with
  | waits | passes => exact hfull
  | promotes | relapses | straggles => exact fun _ => hfull nofun
  | recovers | counts | forcesClosed => exact fun hn => absurd rfl hn
  | trips hn => exact fun _ => UInt32.le_antisymm (bump_le_of_lt (hlt rfl)) hn
  | forcesOpen => exact absurd rfl hturn

theorem State.kind_eq_closed {state : State} : state.kind = .closed ↔ state = .closed := by
  cases state <;> simp [kind]

theorem Step.entered?_eq_closed {s : Step c α ε} :
    s.entered? = some .closed ↔
      s.next.state = .closed ∧ (s.turn.byHand = true ∨ s.next.state ≠ s.memory.state) := by
  unfold entered?
  split
  · next hn => rw [Option.some.injEq, State.kind_eq_closed]; exact ⟨fun h => ⟨h, hn⟩, fun h => h.1⟩
  · next hn => exact ⟨nofun, fun h => absurd h.2 hn⟩

/-- The closed state is entered by hand, or by a success in the half-open state. -/
theorem Shift.closes_iff {now : Instant} {wall : Timestamp} {turn : Turn α ε} {before after : State × UInt32}
    (h : Shift c now wall turn before after) :
    (after.1 = .closed ∧ (turn.byHand = true ∨ after.1 ≠ before.1)) ↔
      turn = .forceClose ∨ before.1 = .halfOpen ∧ ∃ attempt a, turn = .recording attempt (.ok a) := by
  cases h with
  | waits hr =>
    rw [Turn.byHand_of_refreshes hr]
    constructor
    · rintro ⟨-, hb | hn⟩; cases hb; exact absurd rfl hn
    · rintro (rfl | ⟨-, _, _, rfl⟩) <;> cases hr
  | promotes hr =>
    constructor
    · rintro ⟨hc, -⟩; cases hc
    · rintro (rfl | ⟨hs, -⟩); cases hr; cases hs
  | passes hs => simp [Turn.byHand, hs]
  | recovers => simp
  | counts | trips | relapses | straggles | forcesOpen => simp [Turn.byHand]
  | forcesClosed => simp [Turn.byHand]

theorem Step.failures_next (s : Step c α ε) :
    s.next.failures =
      if s.entered? = some .closed then 0
      else if s.failsClosed = true then State.bump s.memory.failures else s.memory.failures := by
  refine s.shift.snd_eq.trans (if_congr entered?_eq_closed.symm rfl (if_congr ?_ rfl rfl))
  simp [failsClosed, Memory.core]

/-- A failure in the closed state adds one to a count below the threshold, and the circuit opens exactly
where the threshold is reached. -/
theorem Step.next_of_failsClosed {s : Step c α ε} (h : s.failsClosed = true)
    (hlt : s.memory.failures < c.settings.threshold) :
    s.next.failures.toNat = s.memory.failures.toNat + 1 ∧
    (s.next.state.kind = .opened ↔ s.next.failures = c.settings.threshold) ∧
    (s.next.state = .closed ↔ s.next.failures < c.settings.threshold) := by
  obtain ⟨hs, hf⟩ : s.memory.state = .closed ∧ s.turn.fails = true := by simpa [failsClosed] using h
  have hcount : (State.bump s.memory.failures).toNat = s.memory.failures.toNat + 1 := toNat_bump_of_lt hlt
  have hshift := s.shift
  rw [show s.memory.core = (.closed, s.memory.failures) from by rw [← hs]; rfl] at hshift
  have hnext := hshift.of_fails_closed hf
  split at hnext
  · next hfull =>
    obtain ⟨hstate, hfailures⟩ := Prod.mk.inj hnext
    have heq := UInt32.le_antisymm (bump_le_of_lt hlt) hfull
    rw [hstate, hfailures]
    exact ⟨hcount, ⟨fun _ => heq, fun _ => rfl⟩, nofun, fun hn => absurd hn (UInt32.not_lt.2 hfull)⟩
  · next hfull =>
    obtain ⟨hstate, hfailures⟩ := Prod.mk.inj hnext
    rw [hstate, hfailures]
    refine ⟨hcount, ⟨nofun, fun heq => ?_⟩, fun _ => UInt32.not_le.1 hfull, fun _ => rfl⟩
    exact absurd (heq ▸ UInt32.le_refl _) hfull

/-- Outside of the closed state nothing is counted. -/
theorem Step.failures_of_ne_closed {s : Step c α ε} (hs : s.memory.state ≠ .closed)
    (hn : s.entered? ≠ some .closed) : s.next.failures = s.memory.failures := by
  have hf : s.failsClosed = false := by simp [failsClosed, hs]
  rw [s.failures_next, if_neg hn, hf]
  rfl

/-! ## Runs -/

/-- What holds of the count after a run from the start. -/
structure Tally (steps : List (Step c α ε)) (memory : Memory ε) : Prop where
  count : memory.failures.toNat = (sinceClosed steps).countP Step.failsClosed
  le : memory.failures ≤ c.settings.threshold
  lt : memory.state = .closed → memory.failures < c.settings.threshold
  full : (∀ s ∈ steps, s.turn ≠ .forceOpen) → memory.state ≠ .closed → memory.failures = c.settings.threshold

theorem sinceClosed_concat (steps : List (Step c α ε)) (s : Step c α ε) :
    sinceClosed (steps ++ [s]) = if s.entered? = some .closed then [] else sinceClosed steps ++ [s] := by
  unfold sinceClosed
  rw [List.rtakeWhile_concat]
  simp

theorem tally_start : Tally (c := c) (α := α) [] (Memory.initial : Memory ε) := by
  have h : (0 : UInt32) < c.settings.threshold := c.settings.threshold_pos
  exact ⟨rfl, UInt32.le_of_lt h, fun _ => h, fun _ hn => absurd rfl hn⟩

theorem tally_step (steps : List (Step c α ε)) (s : Step c α ε) (h : Tally steps s.memory) :
    Tally (steps ++ [s]) s.next := by
  obtain ⟨hle, hlt⟩ := s.shift.within h.le h.lt
  refine ⟨?_, hle, hlt, fun hf => ?_⟩
  · rw [sinceClosed_concat, s.failures_next]
    split
    · rfl
    · rw [List.countP_append, List.countP_singleton, ← h.count]
      split
      · next hs =>
        -- the closed state is below the threshold, so that the count cannot have stopped growing
        obtain ⟨hc, -⟩ := by simpa [Step.failsClosed] using hs
        exact toNat_bump_of_lt (h.lt hc)
      · rfl
  · obtain ⟨hfirst, hlast⟩ := List.forall_mem_append.1 hf
    exact s.shift.full (hlast s (List.mem_singleton_self s)) h.lt (h.full hfirst)

/-- The tally is right after every run. -/
theorem tally (events : List (Turn α ε × σ)) :
    Tally (c.steps .initial events) (c.after .initial events) :=
  c.steps_induction tally_start tally_step events

theorem Tally.thresholdReached_iff {steps : List (Step c α ε)} {memory : Memory ε} (h : Tally steps memory)
    (hf : ∀ s ∈ steps, s.turn ≠ .forceOpen) :
    c.thresholdReached memory = true ↔ memory.state ≠ .closed := by
  unfold Circuit.thresholdReached
  rw [decide_eq_true_iff]
  constructor
  · intro hle hs; exact absurd (h.lt hs) (UInt32.not_lt.2 hle)
  · intro hs; rw [h.full hf hs]; exact UInt32.le_refl _

/-- Failures are counted exactly. After every run from the start, with any turns in any order and any
listeners, the count is the number of failures recorded in the closed state since that was entered
last; it never passes the threshold, and stays below it while the circuit is closed. Whatever the
next turn is: it enters the closed state exactly if it closes the circuit by hand or records a
success in the half-open state; a failure recorded in the closed state adds one to the count, and
opens the circuit exactly if the count is then the threshold; and as long as the circuit is not
closed and does not get closed, the count stays as it is. In a run in which the circuit is not opened
by hand, the count has reached the threshold exactly if the circuit is not closed. -/
theorem failures_exact (c : Circuit σ) (events : List (Turn α ε × σ)) :
    let steps := c.steps .initial events
    let memory := c.after .initial events
    memory.failures.toNat = (sinceClosed steps).countP Step.failsClosed ∧
    memory.failures ≤ c.settings.threshold ∧
    (memory.state = .closed → memory.failures < c.settings.threshold) ∧
    (∀ turn world, let s : Step c α ε := ⟨turn, memory, world⟩
      (s.entered? = some .closed ↔ turn = .forceClose ∨
        memory.state = .halfOpen ∧ ∃ attempt a, turn = .recording attempt (.ok a)) ∧
      (s.failsClosed = true →
        s.next.failures.toNat = memory.failures.toNat + 1 ∧
        (s.next.state.kind = .opened ↔ s.next.failures = c.settings.threshold) ∧
        (s.next.state = .closed ↔ s.next.failures < c.settings.threshold)) ∧
      (memory.state ≠ .closed → s.entered? ≠ some .closed → s.next.failures = memory.failures)) ∧
    ((∀ event ∈ events, event.1 ≠ .forceOpen) →
      (c.thresholdReached memory = true ↔ memory.state ≠ .closed)) := by
  intro steps memory
  have h : Tally steps memory := tally events
  refine ⟨h.count, h.le, h.lt, fun turn world => ⟨?_, fun hf => ?_, fun hs hn => ?_⟩, fun hf => ?_⟩
  · exact Step.entered?_eq_closed.trans (Step.shift ⟨turn, memory, world⟩).closes_iff
  · obtain ⟨hs, -⟩ : memory.state = .closed ∧ turn.fails = true := by simpa [Step.failsClosed] using hf
    exact Step.next_of_failsClosed hf (h.lt hs)
  · exact Step.failures_of_ne_closed hs hn
  · refine h.thresholdReached_iff fun s hs => ?_
    obtain ⟨early, late, he, -⟩ := c.mem_steps hs
    exact hf (s.turn, s.world) (by rw [he]; simp)

end CircuitBreaker
