/-
The gate of an open circuit: once it is entered, and until the circuit is opened or closed by hand or
a refresh reads that the cooldown has passed, the state stays as it was entered, every attempt is
refused and no operation starts. Outcomes of calls that were admitted before do not matter, nor do
clocks that go backwards.
-/
import CircuitBreaker.Proofs.Run

namespace CircuitBreaker

section

variable {α ε σ : Type} {c : Circuit σ}

/-- The turn may lead away from an open state that was entered at `entered`: it opens or closes the
circuit by hand, or refreshes it when the cooldown has passed. -/
def Step.Unlocks (s : Step c α ε) (entered : Instant) : Prop :=
  s.turn.byHand = true ∨ (s.turn.refreshes = true ∧ c.settings.cooldown ≤ s.now.since entered)

instance (s : Step c α ε) (entered : Instant) : Decidable (s.Unlocks entered) :=
  inferInstanceAs (Decidable (_ ∨ _ ∧ _))

/-! ## One step -/

theorem Shift.fst_eq_opened {now entered : Instant} {wall opened : Timestamp} {turn : Turn α ε}
    {n : UInt32} {after : State × UInt32} (h : Shift c now wall turn (.opened entered opened, n) after)
    (hb : turn.byHand = false)
    (hr : turn.refreshes = true → ¬ c.settings.cooldown ≤ now.since entered) :
    after.1 = .opened entered opened := by
  cases h with
  | waits | passes | straggles => rfl
  | promotes ht hc => exact absurd hc (hr ht)
  | forcesOpen | forcesClosed => cases hb

/-- An open state is entered at the reading of the turn that enters it. -/
theorem Shift.opened_of_ne {now : Instant} {wall : Timestamp} {turn : Turn α ε}
    {before after : State × UInt32} (h : Shift c now wall turn before after)
    (hk : after.1.kind = .opened) (hn : turn.byHand = true ∨ after.1 ≠ before.1) :
    after.1 = .opened now wall := by
  cases h with
  | trips | relapses | forcesOpen => rfl
  | promotes | recovers | counts | forcesClosed => cases hk
  | waits hr => exact (hn.resolve_left (by rw [Turn.byHand_of_refreshes hr]; nofun) rfl).elim
  | passes | straggles => exact (hn.resolve_left nofun rfl).elim

theorem Step.opened_of_entered? {s : Step c α ε} (h : s.entered? = some .opened) :
    s.next.state = .opened s.now (c.wallAfterNow s.world) := by
  unfold entered? at h
  split at h
  · next hn => exact s.shift.opened_of_ne (Option.some.inj h) hn
  · cases h

theorem Step.state_next_of_locked {s : Step c α ε} {entered : Instant} {opened : Timestamp}
    (hs : s.memory.state = .opened entered opened) (hu : ¬ s.Unlocks entered) :
    s.next.state = .opened entered opened := by
  have h := s.shift
  rw [show s.memory.core = (.opened entered opened, s.memory.failures) from by rw [← hs]; rfl] at h
  exact h.fst_eq_opened (by simpa using fun hb => hu (Or.inl hb)) fun hr hc => hu (Or.inr ⟨hr, hc⟩)

/-- An attempt that comes to a locked gate is refused, and nothing starts. -/
theorem Step.refused_of_locked {s : Step c α ε} {entered : Instant} {opened : Timestamp}
    (hs : s.memory.state = .opened entered opened) (hu : ¬ s.Unlocks entered) :
    (∀ attempt form, s.turn = .admission attempt form →
      ∃ r, s.ended.result = .ok (.refused (.rejected r))) ∧ Note.started ∉ s.notes := by
  have hr : ∀ attempt form, s.turn = .admission attempt form →
      ∃ r, s.ended.result = .ok (.refused (.rejected r)) := by
    intro attempt form ht
    have hc : ¬ c.settings.cooldown ≤ s.now.since entered := fun hc => hu (Or.inr ⟨by rw [ht]; rfl, hc⟩)
    have h := Turn.refused_of_opened c (α := α) hs hc attempt form
    rw [← ht] at h
    exact ⟨_, h⟩
  -- what starts has been admitted
  refine ⟨hr, fun hn => ?_⟩
  obtain ⟨attempt, form, ht, hw⟩ := Turn.waiting_of_started c hn
  obtain ⟨r, h⟩ := hr attempt form ht
  rw [show s.ended.result = _ from hw] at h
  cases h

/-! ## Runs -/

theorem Circuit.opened_of_locked {entered : Instant} {opened : Timestamp}
    (events : List (Turn α ε × σ)) {memory : Memory ε} (hm : memory.state = .opened entered opened)
    (hu : ∀ s ∈ c.steps memory events, ¬ s.Unlocks entered) :
    (c.after memory events).state = .opened entered opened ∧
      ∀ s ∈ c.steps memory events, s.memory.state = .opened entered opened := by
  induction events generalizing memory with
  | nil => exact ⟨hm, fun _ hs => absurd hs List.not_mem_nil⟩
  | cons event events ih =>
    obtain ⟨hfirst, hrest⟩ := List.forall_mem_cons.1 hu
    -- the first step leaves the same open state, so that the others find the gate as locked as it did
    obtain ⟨ha, hs⟩ := ih (Step.state_next_of_locked hm hfirst) hrest
    exact ⟨ha, List.forall_mem_cons.2 ⟨hm, hs⟩⟩

/-- The gate of an open circuit holds. Where a turn enters the open state, by whatever way, the
circuit is open since the clock reading of that turn; and in every run that follows, as long as no
turn opens or closes the circuit by hand or refreshes it when the cooldown has passed since then, the
state stays the same, every attempt is refused, and no operation starts. -/
theorem stays_opened (c : Circuit σ) (entry : Step c α ε) (h : entry.entered? = some .opened) :
    ∃ opened, entry.next.state = .opened entry.now opened ∧
      ∀ events : List (Turn α ε × σ),
        (∀ s ∈ c.steps entry.next events, ¬ s.Unlocks entry.now) →
        (c.after entry.next events).state = .opened entry.now opened ∧
        ∀ s ∈ c.steps entry.next events,
          s.next.state = .opened entry.now opened ∧
          (∀ attempt form, s.turn = .admission attempt form →
            ∃ r, s.ended.result = .ok (.refused (.rejected r))) ∧
          Note.started ∉ s.notes := by
  refine ⟨_, Step.opened_of_entered? h, fun events hu => ?_⟩
  obtain ⟨ha, hs⟩ := Circuit.opened_of_locked events (Step.opened_of_entered? h) hu
  refine ⟨ha, fun s hm => ?_⟩
  exact ⟨Step.state_next_of_locked (hs s hm) (hu s hm), Step.refused_of_locked (hs s hm) (hu s hm)⟩

end

/-- A failure opens the circuit at 5 ns. An attempt at an earlier reading is refused, and a success
that comes late and a query just before the cooldown ends leave the state as it is. -/
theorem stays_opened_fragile :
    let entry : Step Bench.fragile Unit String := ⟨.recording 0 (.error "down"), .initial, Bench.reading 5⟩
    let events : List (Turn Unit String × Bench) :=
      [(.admission 1 .running, Bench.reading 3), (.recording 2 (.ok ()), Bench.reading 9),
        (.kind, Bench.reading 1000004)]
    entry.entered? = some .opened ∧
      (∀ s ∈ Bench.fragile.steps entry.next events, ¬ s.Unlocks entry.now) ∧
      ∃ opened, (Bench.fragile.after entry.next events).state = .opened ⟨5⟩ opened := by
  intro entry events
  have h : entry.entered? = some .opened := by decide
  have hu : ∀ s ∈ Bench.fragile.steps entry.next events, ¬ s.Unlocks entry.now := by
    decide
  obtain ⟨opened, -, hrun⟩ := stays_opened Bench.fragile entry h
  exact ⟨h, hu, opened, (hrun events hu).1⟩

end CircuitBreaker
