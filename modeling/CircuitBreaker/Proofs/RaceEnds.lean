/-
How races end, to the last detail. All attempts that were admitted while the circuit was half-open have
started their operations. A failure that is recorded first opens the circuit at its own readings, and the
others find it open. A success that is recorded first closes it; then the failures that come later are
counted, and the one that reaches the threshold opens it again.
-/
import CircuitBreaker.Proofs.Faithful
import CircuitBreaker.Proofs.Gate
import CircuitBreaker.Proofs.Race

namespace CircuitBreaker

variable {α ε σ : Type} {c : Circuit σ}

/-- How many failures are recorded in these steps. -/
def failuresIn (steps : List (Step c α ε)) : Nat := steps.countP fun s => s.turn.fails

theorem failuresIn_steps (events : List (Turn α ε × σ)) (memory : Memory ε) :
    failuresIn (c.steps memory events) = events.countP fun event => event.1.fails := by
  induction events generalizing memory with
  | nil => rfl
  | cons event events ih =>
    have hrest := ih (⟨event.1, memory, event.2⟩ : Step c α ε).next
    unfold failuresIn at hrest ⊢
    rw [Circuit.steps, List.countP_cons, List.countP_cons, hrest]

/-! ## Where nothing is entered -/

theorem Step.entered?_eq_none {s : Step c α ε} (hb : s.turn.byHand = false)
    (hs : s.next.state = s.memory.state) : s.entered? = none := by
  unfold entered?
  rw [if_neg]
  rintro (h | h)
  · rw [hb] at h
    cases h
  · exact h hs

theorem Turn.byHand_of_records {turn : Turn α ε} (h : turn.records? ≠ none) : turn.byHand = false := by
  cases turn with
  | recording => rfl
  | _ => exact absurd rfl h

theorem firings_eq_nil {steps : List (Step c α ε)} (h : ∀ s ∈ steps, s.entered? = none) :
    firings steps = [] := by
  rw [firings_eq]
  exact List.filterMap_eq_nil_iff.2 h

/-- Only the step in the middle runs a listener. -/
theorem firings_of_one {before after : List (Step c α ε)} {s : Step c α ε} {kind : Kind}
    (hbefore : ∀ t ∈ before, t.entered? = none) (hs : s.entered? = some kind)
    (hafter : ∀ t ∈ after, t.entered? = none) : firings (before ++ s :: after) = [kind] := by
  rw [firings_eq, List.filterMap_append, List.filterMap_cons_some hs,
    List.filterMap_eq_nil_iff.2 hbefore, List.filterMap_eq_nil_iff.2 hafter]
  rfl

/-! ## Outcomes in an open circuit -/

/-- Outcomes in a row that find the circuit open leave it as it is, each of them. -/
theorem inert_of_opened (records : List (Turn α ε × σ)) {memory : Memory ε}
    (hr : ∀ event ∈ records, event.1.records? ≠ none) (hk : memory.state.kind = .opened) :
    ∀ t ∈ c.steps memory records, t.entered? = none ∧ t.next.core = memory.core := by
  induction records generalizing memory with
  | nil => exact fun t ht => absurd ht List.not_mem_nil
  | cons event records ih =>
    obtain ⟨hfirst, hrest⟩ := List.forall_mem_cons.1 hr
    let s : Step c α ε := ⟨event.1, memory, event.2⟩
    obtain ⟨attempt, hs⟩ := Step.records_of_records? (s := s) hfirst
    obtain ⟨hnone, hcore⟩ := Step.core_of_records_opened hs hk
    have hstate : s.next.state = memory.state := congrArg Prod.fst hcore
    intro t ht
    rcases List.mem_cons.1 ht with rfl | ht
    · exact ⟨hnone, hcore⟩
    · obtain ⟨ht', hcore'⟩ := ih hrest (by rw [hstate]; exact hk) t ht
      exact ⟨ht', hcore'.trans hcore⟩

/-! ## Failures that are counted -/

/-- An outcome that leaves the count below the threshold enters no state. -/
theorem Counted.entered?_eq_none {count : Nat} {s : Step c α ε} (h : Counted c count s.memory)
    (hr : s.turn.records? ≠ none)
    (hlt : count + (if s.turn.fails = true then 1 else 0) < c.settings.threshold.toNat) :
    s.entered? = none := by
  have hbefore : s.memory.state = .closed := h.closed fun hk => by have := h.opened_iff.1 hk; omega
  have hnext := h.record hr
  have hafter : s.next.state = .closed := hnext.closed fun hk => by have := hnext.opened_iff.1 hk; omega
  exact Step.entered?_eq_none (Turn.byHand_of_records hr) (hafter.trans hbefore.symm)

/-- The failure with which the count reaches the threshold opens the circuit, at its own readings. -/
theorem Counted.opens {count : Nat} {s : Step c α ε} (h : Counted c count s.memory)
    (hf : s.turn.fails = true) (hn : count + 1 = c.settings.threshold.toNat) :
    s.next.state = .opened s.now (c.wallAfterNow s.world) ∧ s.entered? = some .opened := by
  have hs : s.memory.state = .closed := h.closed fun hk => by have := h.opened_iff.1 hk; omega
  have hcount : s.memory.failures.toNat = count := by rw [h.failures]; omega
  have hlt : s.memory.failures < c.settings.threshold := by
    show s.memory.failures.toNat < c.settings.threshold.toNat
    omega
  have hfull : c.settings.threshold ≤ State.bump s.memory.failures := by
    show c.settings.threshold.toNat ≤ (State.bump s.memory.failures).toNat
    rw [toNat_bump_of_lt hlt]
    omega
  have hshift := s.shift
  rw [show s.memory.core = (.closed, s.memory.failures) from by rw [← hs]; rfl] at hshift
  have hcore := hshift.of_fails_closed hf
  rw [if_pos hfull] at hcore
  have hnext : s.next.state = .opened s.now (c.wallAfterNow s.world) := congrArg Prod.fst hcore
  refine ⟨hnext, ?_⟩
  unfold Step.entered?
  rw [if_pos (Or.inr (by rw [hnext, hs]; nofun)), hnext]
  rfl

/-- As long as the failures stay below the threshold, no state is entered. -/
theorem Counted.stays (records : List (Turn α ε × σ)) {count : Nat} {memory : Memory ε}
    (h : Counted c count memory) (hr : ∀ event ∈ records, event.1.records? ≠ none)
    (hlt : count + (records.countP fun event => event.1.fails) < c.settings.threshold.toNat) :
    ∀ t ∈ c.steps memory records, t.entered? = none := by
  induction records generalizing count memory with
  | nil => exact fun t ht => absurd ht List.not_mem_nil
  | cons event records ih =>
    obtain ⟨hfirst, hrest⟩ := List.forall_mem_cons.1 hr
    rw [List.countP_cons] at hlt
    let s : Step c α ε := ⟨event.1, memory, event.2⟩
    have hnext := Counted.record (s := s) h hfirst
    intro t ht
    rcases List.mem_cons.1 ht with rfl | ht
    · refine Counted.entered?_eq_none (s := s) h hfirst ?_
      show count + (if event.1.fails = true then 1 else 0) < _
      omega
    · refine ih hnext hrest ?_ t ht
      show count + (if event.1.fails = true then 1 else 0) + _ < _
      omega

/-- Where the failures reach the threshold, one of them is the one that does: it opens the circuit, and
neither the outcomes before it nor those after it enter a state. -/
theorem Counted.opens_once (records : List (Turn α ε × σ)) {count : Nat} {memory : Memory ε}
    (h : Counted c count memory) (hr : ∀ event ∈ records, event.1.records? ≠ none)
    (hlt : count < c.settings.threshold.toNat)
    (hle : c.settings.threshold.toNat ≤ count + records.countP fun event => event.1.fails) :
    ∃ before last after, c.steps memory records = before ++ last :: after ∧
      (∀ t ∈ before, t.entered? = none) ∧ (∀ t ∈ after, t.entered? = none) ∧
      last.turn.fails = true ∧ count + failuresIn before + 1 = c.settings.threshold.toNat ∧
      last.entered? = some .opened ∧
      (c.after memory records).state = .opened last.now (c.wallAfterNow last.world) := by
  induction records generalizing count memory with
  | nil => rw [List.countP_nil] at hle; omega
  | cons event records ih =>
    obtain ⟨hfirst, hrest⟩ := List.forall_mem_cons.1 hr
    rw [List.countP_cons] at hle
    let s : Step c α ε := ⟨event.1, memory, event.2⟩
    have hnext := Counted.record (s := s) h hfirst
    by_cases hfull : count + (if s.turn.fails = true then 1 else 0) < c.settings.threshold.toNat
    · -- this outcome does not open the circuit, so that one of the others does
      obtain ⟨before, last, after, hsplit, hbefore, hafter, hf, hn, hentered, hstate⟩ :=
        ih hnext hrest hfull (by
          show _ ≤ count + (if event.1.fails = true then 1 else 0) + _
          omega)
      refine ⟨s :: before, last, after, ?_, ?_, hafter, hf, ?_, hentered, hstate⟩
      · rw [Circuit.steps, hsplit]
        rfl
      · exact List.forall_mem_cons.2 ⟨Counted.entered?_eq_none (s := s) h hfirst hfull, hbefore⟩
      · rw [← hn]
        unfold failuresIn
        rw [List.countP_cons]
        omega
    · have hf : s.turn.fails = true := by
        by_contra hf
        rw [if_neg hf] at hfull
        omega
      rw [if_pos hf] at hfull
      obtain ⟨hstate, hentered⟩ := Counted.opens (s := s) h hf (by omega)
      have hk : s.next.state.kind = .opened := by rw [hstate]; rfl
      refine ⟨[], s, c.steps s.next records, rfl, fun t ht => absurd ht List.not_mem_nil, ?_, hf, ?_,
        hentered, ?_⟩
      · exact fun t ht => (inert_of_opened records hrest hk t ht).1
      · show count + 0 + 1 = _
        omega
      · have hcore : (c.after s.next records).core = s.next.core := core_after_of_opened records hrest hk
        exact (congrArg Prod.fst hcore).trans hstate

/-! ## The two ways a race ends -/

/-- A race that a failure decides: it opens the circuit at its own readings and does not change the count;
the outcomes after it change neither; and of the listeners only that for the open state runs, once. -/
structure Relapse (first : Step c α ε) (later : List (Step c α ε)) : Prop where
  state : first.next.state = .opened first.now (c.wallAfterNow first.world)
  failures : first.next.failures = first.memory.failures
  inert : ∀ t ∈ later, t.next.state = first.next.state ∧ t.next.failures = first.next.failures
  told : firings (first :: later) = [.opened]

/-- A race that a success decides, and what is remembered after it: the success closes the circuit with a
count of nothing; the failures after it are counted up to the threshold, with which one of them opens the
circuit at its own readings; and the listener for the closed state runs once, before that for the open
state, if that runs. -/
structure Recovery (first : Step c α ε) (later : List (Step c α ε)) (final : Memory ε) : Prop where
  state : first.next.state = .closed
  failures : first.next.failures = 0
  count : final.failures.toNat = min (failuresIn later) c.settings.threshold.toNat
  opened_iff : final.state.kind = .opened ↔ c.settings.threshold.toNat ≤ failuresIn later
  closed : final.state.kind ≠ .opened → final.state = .closed
  opens : c.settings.threshold.toNat ≤ failuresIn later →
    ∃ before last after, later = before ++ last :: after ∧ last.turn.fails = true ∧
      failuresIn before + 1 = c.settings.threshold.toNat ∧ last.entered? = some .opened ∧
      final.state = .opened last.now (c.wallAfterNow last.world)
  told : firings (first :: later) =
    .closed :: if c.settings.threshold.toNat ≤ failuresIn later then [.opened] else []

/-- A failure that is recorded in the half-open state opens it at its own readings. -/
theorem Step.opens_of_halfOpen {s : Step c α ε} (hs : s.memory.state = .halfOpen)
    (hf : s.turn.fails = true) :
    s.next.state = .opened s.now (c.wallAfterNow s.world) ∧ s.next.failures = s.memory.failures ∧
      s.entered? = some .opened := by
  have hentered : s.entered? = some .opened := by
    rw [Step.entered?_of_halfOpen hs]
    unfold Turn.fails at hf
    split at hf
    · next hturn => rw [hturn]; rfl
    · cases hf
  refine ⟨Step.opened_of_entered? hentered, ?_, hentered⟩
  exact Step.failures_of_ne_closed (by rw [hs]; nofun) (by rw [hentered]; nofun)

theorem relapse_of_halfOpen {first : Step c α ε} (hs : first.memory.state = .halfOpen)
    (hf : first.turn.fails = true) {later : List (Turn α ε × σ)}
    (hr : ∀ event ∈ later, event.1.records? ≠ none) : Relapse first (c.steps first.next later) := by
  obtain ⟨hstate, hfailures, hentered⟩ := Step.opens_of_halfOpen hs hf
  have hk : first.next.state.kind = .opened := by rw [hstate]; rfl
  have hinert := inert_of_opened (c := c) later hr hk
  refine ⟨hstate, hfailures, fun t ht => ?_, ?_⟩
  · exact Prod.mk.inj (hinert t ht).2
  · rw [firings_cons, hentered, firings_eq_nil fun t ht => (hinert t ht).1]
    rfl

theorem recovery_of_halfOpen {first : Step c α ε} (hs : first.memory.state = .halfOpen)
    (hf : first.turn.fails = false) (hrecords : first.turn.records? ≠ none)
    {later : List (Turn α ε × σ)} (hr : ∀ event ∈ later, event.1.records? ≠ none) :
    Recovery first (c.steps first.next later) (c.after first.next later) := by
  have hpos : 0 < c.settings.threshold.toNat := c.settings.threshold_pos
  have hzero : Counted c 0 first.next := (Step.of_records_halfOpen hrecords hs).2 hf
  have hfinal := hzero.after later hr
  rw [Nat.zero_add, ← failuresIn_steps (c := c) later first.next] at hfinal
  have hstate : first.next.state = .closed :=
    hzero.closed fun hk => by have := hzero.opened_iff.1 hk; omega
  have hentered : first.entered? = some .closed :=
    Step.entered?_eq_closed.2 ⟨hstate, Or.inr (by rw [hstate, hs]; nofun)⟩
  have hopens := hzero.opens_once later hr hpos
  rw [Nat.zero_add, ← failuresIn_steps (c := c) later first.next] at hopens
  refine ⟨hstate, ?_, hfinal.failures, hfinal.opened_iff, hfinal.closed, fun hle => ?_, ?_⟩
  · rw [first.failures_next, if_pos hentered]
  · obtain ⟨before, last, after, hsplit, -, -, hlast, hn, hlastEntered, hend⟩ := hopens hle
    exact ⟨before, last, after, hsplit, hlast, by omega, hlastEntered, hend⟩
  · rw [firings_cons, hentered, Option.toList_some, List.singleton_append]
    congr 1
    by_cases hle : c.settings.threshold.toNat ≤ failuresIn (c.steps first.next later)
    · obtain ⟨before, last, after, hsplit, hbefore, hafter, -, -, hlastEntered, -⟩ := hopens hle
      rw [if_pos hle, hsplit, firings_of_one hbefore hlastEntered hafter]
    · rw [if_neg hle]
      refine firings_eq_nil (hzero.stays later hr ?_)
      rw [Nat.zero_add, ← failuresIn_steps (c := c) later first.next]
      omega

/-! ## The operations of the race -/

/-- In order, the operation of an attempt that has been admitted starts once, if it is something to run. -/
theorem Orderly.started_of_admits {steps : List (Step c α ε)} (h : Orderly steps) {s : Step c α ε}
    (hs : s ∈ steps) {attempt : Nat} {form : Form} (hturn : s.turn = .admission attempt form)
    (ha : s.Admits attempt) :
    ((stepsOf attempt steps).flatMap Step.notes).count .started = if form = .running then 1 else 0 := by
  have hmem : s ∈ stepsOf attempt steps := mem_stepsOf.2 ⟨hs, by rw [hturn]; rfl⟩
  rcases stepsOf_orderly h attempt with hnone | ⟨t, form', hone, -⟩ | ⟨t, u, form', htwo, -, outcome, hu⟩
  · rw [hnone] at hmem
    cases hmem
  · rw [hone, List.mem_singleton] at hmem
    subst hmem
    rw [hone, List.flatMap_singleton]
    exact Step.started_of_admits hturn ha
  · -- the recording starts nothing, and is not the step in question
    have hrecording : u.notes.count Note.started = 0 :=
      List.count_eq_zero.2 (Step.started_notMem_recording ⟨outcome, hu⟩)
    rw [htwo] at hmem
    rcases List.mem_cons.1 hmem with rfl | hmem
    · rw [htwo, List.flatMap_cons, List.flatMap_singleton, List.count_append, hrecording, Nat.add_zero]
      exact Step.started_of_admits hturn ha
    · rw [List.mem_singleton.1 hmem, hu] at hturn
      cases hturn

/-- The exact end of a race. Take any run from the start that has left the circuit half-open, and any
number of attempts that were admitted in that half-open period, with whatever else happened in it; and let
their outcomes be recorded in any order, with nothing in between. The operation of each of them has been
started, once. If the outcome that is recorded first is a failure, the circuit is open from then on since
the readings of that recording, with the count as it was; the others change neither; and only the listener
for the open state runs, once. If it is a success, the circuit closes with a count of nothing. In the end
the count is that of the failures among the others, but at most the threshold, and the circuit is open
exactly if they are as many as that, since the readings of the one that made them so many; and the listener
for the closed state runs once, and then at most once that for the open state. -/
theorem race_ends_exactly (c : Circuit σ) (events : List (Turn α ε × σ)) {early : List (Step c α ε)}
    {entry : Step c α ε} {period : List (Step c α ε)}
    (hperiod : Since .halfOpen (c.steps .initial events) early entry period)
    (first : Turn α ε × σ) (later : List (Turn α ε × σ))
    (horder : Orderly (c.steps .initial (events ++ first :: later)))
    (hrace : ∀ event ∈ first :: later,
      ∃ attempt, event.1.records? = some attempt ∧ ∃ t ∈ entry :: period, t.Admits attempt) :
    let decider : Step c α ε := ⟨first.1, c.after .initial events, first.2⟩
    let others := c.steps decider.next later
    (∀ event ∈ first :: later, ∀ attempt, event.1.records? = some attempt →
      ∃ t ∈ entry :: period, ∃ form, t.turn = .admission attempt form ∧
        t.notes.count .started = (if form = .running then 1 else 0) ∧
        ((stepsOf attempt (c.steps .initial (events ++ first :: later))).flatMap Step.notes).count .started =
          if form = .running then 1 else 0) ∧
    (first.1.fails = true → Relapse decider others) ∧
    (first.1.fails = false → Recovery decider others (c.after .initial (events ++ first :: later))) := by
  intro decider others
  have hs : decider.memory.state = .halfOpen := State.kind_eq_halfOpen.1 hperiod.kind_after
  have hrecords : ∀ event ∈ first :: later, event.1.records? ≠ none := by
    intro event he
    obtain ⟨attempt, ha, -⟩ := hrace event he
    rw [ha]
    nofun
  obtain ⟨hfirst, hlater⟩ := List.forall_mem_cons.1 hrecords
  refine ⟨fun event he attempt ha => ?_, fun hf => relapse_of_halfOpen hs hf hlater, fun hf => ?_⟩
  · obtain ⟨attempt', ha', t, ht, hadmits⟩ := hrace event he
    obtain rfl : attempt = attempt' := Option.some.inj (ha.symm.trans ha')
    obtain ⟨form, hturn⟩ := hadmits.1
    refine ⟨t, ht, form, hturn, Step.started_of_admits hturn hadmits, ?_⟩
    refine horder.started_of_admits ?_ hturn hadmits
    rw [c.steps_append, hperiod.split]
    exact List.mem_append_left _ (List.mem_append_right _ ht)
  · rw [c.after_append]
    exact recovery_of_halfOpen hs hf hfirst hlater

/-- Three attempts race. The success is recorded first and closes the circuit; of the two failures after
it the second one reaches the threshold, and opens the circuit again. -/
theorem race_ends_exactly_patient :
    let events : List (Turn Unit String × Bench) := Bench.probing ++ asking [0, 1, 2] (Bench.reading 1000000)
    let race : List (Turn Unit String × Bench) :=
      [(.recording 1 (.ok ()), Bench.reading 1000001), (.recording 2 (.error "down"), Bench.reading 1000002),
        (.recording 0 (.error "down"), Bench.reading 1000003)]
    let steps := Bench.patient.steps .initial events
    let final := Bench.patient.after .initial (events ++ race)
    Since .halfOpen steps (steps.take 1) steps[1] (steps.drop 2) ∧
    Orderly (Bench.patient.steps .initial (events ++ race)) ∧
    (∀ event ∈ race, ∃ attempt, event.1.records? = some attempt ∧
      ∃ t ∈ steps[1] :: steps.drop 2, t.Admits attempt) ∧
    final.failures.toNat = 2 ∧ final.state.kind = .opened ∧
    firings (Bench.patient.steps (Bench.patient.after .initial events) race) = [.closed, .opened] := by
  intro events race steps final
  have hperiod : Since .halfOpen steps (steps.take 1) steps[1] (steps.drop 2) := ⟨rfl, by decide, by decide⟩
  have horder : Orderly (Bench.patient.steps .initial (events ++ race)) := by decide
  have hrace : ∀ event ∈ race, ∃ attempt, event.1.records? = some attempt ∧
      ∃ t ∈ steps[1] :: steps.drop 2, t.Admits attempt := by
    intro event he
    simp only [race, List.mem_cons, List.not_mem_nil, or_false] at he
    rcases he with rfl | rfl | rfl
    · exact ⟨1, rfl, by decide⟩
    · exact ⟨2, rfl, by decide⟩
    · exact ⟨0, rfl, by decide⟩
  obtain ⟨-, -, hrecovery⟩ := race_ends_exactly Bench.patient events hperiod _ _ horder hrace
  have h := hrecovery rfl
  exact ⟨hperiod, horder, hrace, h.count, h.opened_iff.2 (by decide), h.told⟩

end CircuitBreaker
