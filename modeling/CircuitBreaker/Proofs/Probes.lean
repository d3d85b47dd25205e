/-
What decides a half-open circuit: the first outcome that is recorded while it is half-open, whoever
made the attempt. Recording does not know when an attempt was admitted, so a call that was admitted
before the circuit opened decides like a probe if it is still in flight. While the circuit is open,
outcomes change nothing.
-/
import CircuitBreaker.Proofs.Transitions

namespace CircuitBreaker

variable {α ε σ : Type} {c : Circuit σ}

/-! ## The state entered last -/

/-- In these steps a kind of state was entered last by `entry`, after `early`, and has not been left
in the steps of `period` since. -/
structure Since (kind : Kind) (steps early : List (Step c α ε)) (entry : Step c α ε)
    (period : List (Step c α ε)) : Prop where
  split : steps = early ++ entry :: period
  enters : entry.entered? = some kind
  stays : ∀ s ∈ period, s.entered? = none

theorem since_concat_entering {kind : Kind} (steps : List (Step c α ε)) {s : Step c α ε}
    (h : s.entered? = some kind) : Since kind (steps ++ [s]) steps s [] :=
  ⟨rfl, h, List.forall_mem_nil _⟩

theorem Since.concat {kind : Kind} {steps early : List (Step c α ε)} {entry : Step c α ε}
    {period : List (Step c α ε)} (h : Since kind steps early entry period) {s : Step c α ε}
    (hs : s.entered? = none) : Since kind (steps ++ [s]) early entry (period ++ [s]) := by
  refine ⟨by rw [h.split, List.append_assoc, List.cons_append], h.enters, ?_⟩
  exact List.forall_mem_append.2 ⟨h.stays, List.forall_mem_singleton.2 hs⟩

/-- Where no state is entered, the state stays. -/
theorem state_after_of_stays : ∀ (events : List (Turn α ε × σ)) (memory : Memory ε),
    (∀ s ∈ c.steps memory events, s.entered? = none) → (c.after memory events).state = memory.state
  | [], _, _ => rfl
  | (turn, world) :: events, memory, h => by
    obtain ⟨hfirst, hrest⟩ := List.forall_mem_cons.1 h
    exact (state_after_of_stays events _ hrest).trans (Step.state_of_entered?_none _ hfirst).2

/-- After a run the state is the one that was entered last. -/
theorem Since.state_after {kind : Kind} {events : List (Turn α ε × σ)} {memory : Memory ε}
    {early : List (Step c α ε)} {entry : Step c α ε} {period : List (Step c α ε)}
    (h : Since kind (c.steps memory events) early entry period) :
    (c.after memory events).state = entry.next.state := by
  obtain ⟨before, late, he, -, hm, hp⟩ := c.steps_eq_append h.split
  have hafter : c.after memory events = c.after entry.next late := by
    rw [he, c.after_append, Circuit.after, ← hm]
  rw [hafter]
  exact state_after_of_stays late entry.next (by rw [← hp]; exact h.stays)

theorem Since.kind_after {kind : Kind} {events : List (Turn α ε × σ)} {memory : Memory ε}
    {early : List (Step c α ε)} {entry : Step c α ε} {period : List (Step c α ε)}
    (h : Since kind (c.steps memory events) early entry period) :
    (c.after memory events).state.kind = kind := by
  rw [h.state_after]
  exact (entry.kind_of_entered? h.enters).1

theorem Since.kind_of_mem {kind : Kind} {events : List (Turn α ε × σ)} {memory : Memory ε}
    {early : List (Step c α ε)} {entry : Step c α ε} {period : List (Step c α ε)}
    (h : Since kind (c.steps memory events) early entry period) {t : Step c α ε} (ht : t ∈ period) :
    t.memory.state.kind = kind := by
  obtain ⟨first, rest, rfl⟩ := List.append_of_mem ht
  have hsplit : c.steps memory events = (early ++ entry :: first) ++ t :: rest := by
    rw [h.split, List.append_assoc, List.cons_append]
  obtain ⟨before, -, -, hb, hm, -⟩ := c.steps_eq_append hsplit
  have hsince : Since kind (c.steps memory before) early entry first :=
    ⟨hb.symm, h.enters, (List.forall_mem_append.1 h.stays).1⟩
  rw [hm]
  exact hsince.kind_after

/-- A circuit that is no longer as it was at the start has entered its kind of state last. -/
theorem exists_since (events : List (Turn α ε × σ)) {memory : Memory ε} {kind : Kind}
    (hn : memory.state.kind ≠ kind) (h : (c.after memory events).state.kind = kind) :
    ∃ early entry period, Since kind (c.steps memory events) early entry period := by
  revert h
  refine c.steps_induction (motive := fun steps after => after.state.kind = kind →
    ∃ early entry period, Since kind steps early entry period) ?_ (fun steps s ih h => ?_) events
  · exact fun h => absurd h hn
  · cases he : s.entered? with
    | none =>
      rw [(s.state_of_entered?_none he).2] at h
      obtain ⟨early, entry, period, hs⟩ := ih h
      exact ⟨early, entry, period ++ [s], hs.concat he⟩
    | some kind' =>
      obtain rfl : kind' = kind := (s.kind_of_entered? he).1.symm.trans h
      exact ⟨steps, s, [], since_concat_entering steps he⟩

/-! ## Probes alone -/

/-- Only an attempt that was admitted since the circuit turned half-open closes or opens it, hands
apart. -/
def ProbesDecide (steps : List (Step c α ε)) : Prop :=
  ∀ before s after early entry period, steps = before ++ s :: after →
    Since .halfOpen before early entry period → s.turn.byHand = false → s.entered? ≠ none →
    ∃ attempt, s.Records attempt ∧ ∃ t ∈ entry :: period, t.Admits attempt

/-- The outcome of an attempt that was admitted before the circuit was opened last does not lead to
another state. -/
def StragglersStay (steps : List (Step c α ε)) : Prop :=
  ∀ before s after early entry later attempt, steps = before ++ s :: after →
    before = early ++ entry :: later → entry.entered? = some .opened →
    (∀ t ∈ later, t.entered? ≠ some .opened) → (∃ t ∈ early, t.Admits attempt) → s.Records attempt →
    s.entered? = none

namespace Bench

/-- Two attempts are admitted. The second one fails and opens the circuit; a query turns it half-open;
and then the first one succeeds. -/
def straggling : List (Turn Unit String × Bench) :=
  [(.admission 0 .running, reading 0), (.admission 1 .running, reading 0),
    (.recording 1 (.error "down"), reading 0), (.kind, reading 1000000),
    (.recording 0 (.ok ()), reading 1000000)]

end Bench

/-- The outcome of a call that was admitted in the closed state closes a half-open circuit to which no
attempt has been admitted. -/
theorem straggler_closes :
    let steps := Bench.fragile.steps .initial Bench.straggling
    Orderly steps ∧ ¬ ProbesDecide steps ∧ ¬ StragglersStay steps := by
  intro steps
  refine ⟨by decide, fun h => ?_, fun h => ?_⟩
  -- the query that turns the circuit half-open is no admission, and there is no other step since
  · obtain ⟨attempt, -, t, ht, ⟨_, ha⟩, -⟩ := h (steps.take 4) steps[4] [] (steps.take 3) steps[3] [] rfl
      ⟨rfl, by decide, by decide⟩ rfl (by decide)
    rw [List.mem_singleton.1 ht] at ha
    cases ha
  · have hs : steps[4].entered? = none :=
      h (steps.take 4) steps[4] [] (steps.take 2) steps[2] [steps[3]] 0 rfl rfl (by decide) (by decide)
        (by decide) (by decide)
    exact absurd hs (by decide)

/-! ## What decides -/

/-- What a turn leads to in the half-open state. -/
def Turn.verdict? : Turn α ε → Option Kind
  | recording _ (.ok _) | forceClose => some .closed
  | recording _ (.error _) | forceOpen => some .opened
  | admission _ _ | kind | snapshot => none

theorem State.kind_eq_halfOpen {state : State} : state.kind = .halfOpen ↔ state = .halfOpen := by
  cases state <;> simp [kind]

theorem Step.entered?_of_halfOpen {s : Step c α ε} (h : s.memory.state = .halfOpen) :
    s.entered? = s.turn.verdict? := by
  rw [s.entered?_eq]
  obtain ⟨turn, ⟨state, failures, last⟩, world⟩ := s
  obtain rfl : state = .halfOpen := h
  cases turn with
  | recording attempt outcome => cases outcome <;> rfl
  | _ => rfl

theorem Shift.of_recording_opened {now : Instant} {wall : Timestamp} {attempt : Nat}
    {outcome : Except ε α} {before after : State × UInt32}
    (h : Shift c now wall (.recording attempt outcome) before after) (hk : before.1.kind = .opened) :
    after = before := by
  cases h with
  | passes | straggles => rfl
  | waits hr | promotes hr => cases hr
  | recovers | counts | trips | relapses => cases hk

theorem Step.core_of_records_opened {s : Step c α ε} {attempt : Nat} (hr : s.Records attempt)
    (hk : s.memory.state.kind = .opened) : s.entered? = none ∧ s.next.core = s.memory.core := by
  obtain ⟨outcome, ht⟩ := hr
  have hshift := s.shift
  rw [ht] at hshift
  have hcore : s.next.core = s.memory.core := hshift.of_recording_opened hk
  refine ⟨if_neg ?_, hcore⟩
  rintro (hb | hn)
  · rw [ht] at hb; cases hb
  · exact hn (congrArg Prod.fst hcore)

/-- An attempt that is in flight was admitted late, or was in flight before already. -/
theorem InFlight.of_append {early late : List (Step c α ε)} {attempt : Nat}
    (h : InFlight (early ++ late) attempt) :
    (∃ t ∈ late, t.Admits attempt) ∨ InFlight early attempt := by
  obtain ⟨⟨t, ht, ha⟩, hr⟩ := h
  rcases List.mem_append.1 ht with ht | ht
  · exact Or.inr ⟨⟨t, ht, ha⟩, (List.forall_mem_append.1 hr).1⟩
  · exact Or.inl ⟨t, ht, ha⟩

/-- An open circuit that does not turn half-open admits nothing. -/
theorem Step.not_admits_of_opened {s : Step c α ε} (hk : s.memory.state.kind = .opened)
    (hn : s.entered? = none) (attempt : Nat) : ¬ s.Admits attempt := by
  rintro ⟨⟨form, ht⟩, hw⟩
  rw [s.entered?_eq, Option.map_eq_none_iff, ht] at hn
  cases hs : s.memory.state with
  | closed => rw [hs] at hk; cases hk
  | halfOpen => rw [hs] at hk; cases hk
  | opened entered wall =>
    have hc : ¬ c.settings.cooldown ≤ s.now.since entered := by
      intro hc
      have hnext : State.refresh s.now c.settings.cooldown s.memory.state = some .halfOpen := by
        rw [hs]; exact if_pos hc
      cases hnext.symm.trans hn
    have hr := Turn.refused_of_opened c (α := α) hs hc attempt form
    rw [← ht, show (s.turn.call c s.memory s.world).result = _ from hw] at hr
    cases hr

/-- What is in flight while a circuit is open was in flight when it opened. -/
theorem InFlight.of_since_opened {events : List (Turn α ε × σ)} {memory : Memory ε}
    {first : List (Step c α ε)} {opening : Step c α ε} {locked : List (Step c α ε)} {attempt : Nat}
    (h : InFlight (c.steps memory events) attempt)
    (hs : Since .opened (c.steps memory events) first opening locked) : InFlight first attempt := by
  rw [hs.split] at h
  refine h.of_append.resolve_left ?_
  -- neither the step that opened the circuit admits anything, nor any since
  rintro ⟨t, ht, ha⟩
  rcases List.mem_cons.1 ht with rfl | ht
  · obtain ⟨⟨form, hturn⟩, -⟩ := ha
    have htells := Step.mem_tells hs.enters
    rw [hturn] at htells
    simp [Turn.tells] at htells
  · exact Step.not_admits_of_opened (hs.kind_of_mem ht) (hs.stays t ht) attempt ha

/-- In a half-open period no outcome has been recorded yet. -/
theorem Since.not_records {events : List (Turn α ε × σ)} {memory : Memory ε}
    {early : List (Step c α ε)} {entry : Step c α ε} {period : List (Step c α ε)}
    (h : Since .halfOpen (c.steps memory events) early entry period) :
    ∀ t ∈ period, ∀ attempt, ¬ t.Records attempt := by
  rintro t ht attempt ⟨outcome, hturn⟩
  have hnone := h.stays t ht
  rw [Step.entered?_of_halfOpen (State.kind_eq_halfOpen.1 (h.kind_of_mem ht)), hturn] at hnone
  cases outcome <;> cases hnone

/-- What is in flight when a half-open period begins was in flight when the circuit opened last. -/
theorem exists_opening {events : List (Turn α ε × σ)} {early : List (Step c α ε)} {entry : Step c α ε}
    {period : List (Step c α ε)} (h : Since .halfOpen (c.steps .initial events) early entry period)
    {attempt : Nat} (hf : InFlight early attempt) :
    ∃ first opening locked, Since .opened early first opening locked ∧ InFlight first attempt := by
  obtain ⟨before, -, -, rfl, hm, -⟩ := c.steps_eq_append h.split
  have hk : (c.after .initial before).state.kind = .opened := hm ▸ (Step.legal h.enters).before rfl
  have hclosed : (Memory.initial : Memory ε).state.kind ≠ .opened := nofun
  obtain ⟨first, opening, locked, hs⟩ := exists_since before hclosed hk
  exact ⟨first, opening, locked, hs, hf.of_since_opened hs⟩

/-- The first outcome that is recorded decides a half-open circuit, whoever made the attempt. A circuit
is half-open where it has entered that state and no other since. A success then closes it and a failure
opens it, and but by hand nothing else leads out of the state. The attempt either was admitted in the
half-open period, or was in flight already when the circuit opened last; so a probe decides if nothing
was in flight then. An outcome that is recorded in the open state changes nothing. -/
theorem outcomes_decide (c : Circuit σ) (events : List (Turn α ε × σ))
    (h : Orderly (c.steps .initial events)) (before : List (Step c α ε)) (s : Step c α ε)
    (after : List (Step c α ε)) (hs : c.steps .initial events = before ++ s :: after) :
    (s.memory.state = .halfOpen ↔ ∃ early entry period, Since .halfOpen before early entry period) ∧
    (∀ early entry period, Since .halfOpen before early entry period →
      (∀ t ∈ period, ∀ attempt, ¬ t.Records attempt) ∧
      (∀ attempt a, s.turn = .recording attempt (.ok a) → s.entered? = some .closed) ∧
      (∀ attempt e, s.turn = .recording attempt (.error e) → s.entered? = some .opened) ∧
      (s.turn.byHand = false → s.entered? ≠ none →
        ∃ attempt, s.Records attempt ∧
          ((∃ t ∈ entry :: period, t.Admits attempt) ∨
            ∃ first opening locked, Since .opened early first opening locked ∧ InFlight first attempt))) ∧
    (s.memory.state.kind = .opened → ∀ attempt, s.Records attempt →
      s.entered? = none ∧ s.next.state = s.memory.state ∧ s.next.failures = s.memory.failures) := by
  obtain ⟨earlier, later, -, rfl, hm, -⟩ := c.steps_eq_append hs
  have hstate : ∀ {early entry period}, Since .halfOpen (c.steps .initial earlier) early entry period →
      s.memory.state = .halfOpen :=
    fun hsince => State.kind_eq_halfOpen.1 (by rw [hm]; exact hsince.kind_after)
  refine ⟨⟨fun hk => ?_, fun ⟨_, _, _, hsince⟩ => hstate hsince⟩, fun early entry period hsince => ?_,
    fun hk attempt hr => ?_⟩
  · exact exists_since earlier nofun (by rw [← hm, hk]; rfl)
  · have hv := Step.entered?_of_halfOpen (hstate hsince)
    refine ⟨hsince.not_records, fun attempt a ht => by rw [hv, ht]; rfl,
      fun attempt e ht => by rw [hv, ht]; rfl, fun hb hn => ?_⟩
    have horder := h _ s after hs
    rw [hv] at hn
    cases ht : s.turn with
    | recording attempt outcome =>
      rw [Step.InOrder, ht] at horder
      refine ⟨attempt, ⟨outcome, ht⟩, ?_⟩
      rw [hsince.split] at horder
      exact horder.of_append.imp_right (exists_opening hsince)
    | forceOpen | forceClose => rw [ht] at hb; cases hb
    | _ => rw [ht] at hn; exact absurd rfl hn
  · obtain ⟨hnone, hcore⟩ := Step.core_of_records_opened hr hk
    exact ⟨hnone, congrArg Prod.fst hcore, congrArg Prod.snd hcore⟩

/-- The attempt that closes the circuit in `Bench.straggling` was in flight when it opened. -/
theorem outcomes_decide_straggling :
    let steps := Bench.fragile.steps .initial Bench.straggling
    Orderly steps ∧ Since .halfOpen (steps.take 4) (steps.take 3) steps[3] [] ∧
      ∃ first opening locked, Since .opened (steps.take 3) first opening locked ∧ InFlight first 0 := by
  intro steps
  have h : Orderly steps := by decide
  have hs : Since .halfOpen (steps.take 4) (steps.take 3) steps[3] [] := ⟨rfl, by decide, by decide⟩
  obtain ⟨-, hdecide, -⟩ := outcomes_decide Bench.fragile Bench.straggling h (steps.take 4) steps[4] [] rfl
  obtain ⟨attempt, ⟨_, hr⟩, hfrom⟩ := (hdecide _ _ _ hs).2.2.2 rfl (by decide)
  cases hr
  refine ⟨h, hs, hfrom.resolve_left ?_⟩
  rintro ⟨t, ht, ⟨_, ha⟩, -⟩
  rw [List.mem_singleton.1 ht] at ha
  cases ha

end CircuitBreaker
