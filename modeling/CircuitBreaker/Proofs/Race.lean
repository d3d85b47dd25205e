/-
Attempts that race for a half-open circuit: all are admitted before the first of their outcomes is
recorded. The outcome that is recorded first decides, and not the last one, as the others meet the
state that it has led to. A failure opens the circuit, where outcomes come too late; a success closes
it, where failures are counted up to the threshold.
-/
import CircuitBreaker.Proofs.Counting
import CircuitBreaker.Proofs.Ending
import CircuitBreaker.Proofs.Probes

namespace CircuitBreaker

variable {α ε σ : Type} {c : Circuit σ}

/-! ## Admissions in a half-open circuit -/

/-- A half-open circuit admits every attempt, and stays half-open. -/
theorem Step.of_asks_halfOpen {s : Step c α ε} (ha : s.turn.asks? ≠ none) (hs : s.memory.state = .halfOpen) :
    s.ended.result = .ok .waiting ∧ s.next.state = .halfOpen := by
  obtain ⟨turn, memory, world⟩ := s
  cases turn with
  | admission attempt form =>
    have ht : c.target memory world (.admission attempt form : Turn α ε) = none := by
      show memory.state.refresh _ _ = none
      rw [show memory.state = .halfOpen from hs]
      rfl
    have hh : (c.heard memory world (.admission attempt form : Turn α ε)).1 = none := by
      unfold Circuit.heard
      rw [ht]
      rfl
    refine ⟨?_, ?_⟩
    · rcases Turn.admission_returns c hh with ⟨hw, -⟩ | ⟨r, -, -, -, hk⟩
      · exact hw
      · rw [show memory.state = .halfOpen from hs] at hk
        cases hk
    · show ((Turn.admission attempt form).call c memory world).memory.state = _
      rw [Turn.state_call, ht]
      exact hs
  | _ => exact absurd rfl ha

theorem admitted_of_halfOpen (asks : List (Turn α ε × σ)) {memory : Memory ε}
    (ha : ∀ event ∈ asks, event.1.asks? ≠ none) (hs : memory.state = .halfOpen) :
    (∀ s ∈ c.steps memory asks, s.ended.result = .ok .waiting) ∧ (c.after memory asks).state = .halfOpen := by
  induction asks generalizing memory with
  | nil => exact ⟨fun _ h => absurd h List.not_mem_nil, hs⟩
  | cons event asks ih =>
    obtain ⟨hfirst, hrest⟩ := List.forall_mem_cons.1 ha
    obtain ⟨hw, hn⟩ := Step.of_asks_halfOpen (s := ⟨event.1, memory, event.2⟩) hfirst hs
    obtain ⟨hall, hafter⟩ := ih hrest hn
    exact ⟨List.forall_mem_cons.2 ⟨hw, hall⟩, hafter⟩

/-! ## Outcomes in a row -/

theorem Turn.cases_of_records {turn : Turn α ε} (h : turn.records? ≠ none) :
    (turn.fails = false ∧ ∃ attempt a, turn = .recording attempt (.ok a)) ∨
      turn.fails = true ∧ ∃ attempt failure, turn = .recording attempt (.error failure) := by
  cases turn with
  | recording attempt outcome =>
    cases outcome with
    | ok a => exact Or.inl ⟨rfl, attempt, a, rfl⟩
    | error failure => exact Or.inr ⟨rfl, attempt, failure, rfl⟩
  | _ => exact absurd rfl h

theorem Step.records_of_records? {s : Step c α ε} (h : s.turn.records? ≠ none) : ∃ attempt, s.Records attempt := by
  obtain ⟨attempt, ha⟩ := Option.ne_none_iff_exists'.1 h
  exact ⟨attempt, Turn.records?_eq_some.1 ha⟩

theorem Shift.of_success_closed {now : Instant} {wall : Timestamp} {attempt : Nat} {a : α}
    {before after : State × UInt32} (h : Shift c now wall (.recording attempt (.ok a) : Turn α ε) before after)
    (hs : before.1 = .closed) : after = before := by
  cases h with
  | passes => rfl
  | recovers => cases hs
  | waits hr | promotes hr => cases hr

/-- What is remembered after so many failures, where the count started again with the closed state: all
of them are counted up to the threshold, with which the circuit opens. -/
structure Counted (c : Circuit σ) (count : Nat) (memory : Memory ε) : Prop where
  failures : memory.failures.toNat = min count c.settings.threshold.toNat
  opened_iff : memory.state.kind = .opened ↔ c.settings.threshold.toNat ≤ count
  closed : memory.state.kind ≠ .opened → memory.state = .closed

theorem Counted.congr {count : Nat} {memory memory' : Memory ε} (h : Counted c count memory)
    (hcore : memory'.core = memory.core) : Counted c count memory' := by
  obtain ⟨hstate, hfailures⟩ : memory'.state = memory.state ∧ memory'.failures = memory.failures :=
    Prod.mk.inj hcore
  exact ⟨by rw [hfailures, h.failures], by rw [hstate]; exact h.opened_iff, by rw [hstate]; exact h.closed⟩

/-- At the threshold no more failures are told apart. -/
theorem Counted.add_of_full {count : Nat} {memory : Memory ε} (h : Counted c count memory)
    (hfull : c.settings.threshold.toNat ≤ count) (more : Nat) : Counted c (count + more) memory := by
  refine ⟨?_, ⟨fun _ => by omega, fun _ => h.opened_iff.2 hfull⟩, h.closed⟩
  rw [h.failures]
  omega

/-- An outcome adds a failure or none. After the circuit has opened it comes too late. -/
theorem Counted.record {count : Nat} {s : Step c α ε} (h : Counted c count s.memory)
    (hr : s.turn.records? ≠ none) : Counted c (count + if s.turn.fails = true then 1 else 0) s.next := by
  by_cases hfull : c.settings.threshold.toNat ≤ count
  · obtain ⟨attempt, ha⟩ := Step.records_of_records? hr
    obtain ⟨-, hcore⟩ := Step.core_of_records_opened ha (h.opened_iff.2 hfull)
    exact (h.add_of_full hfull _).congr hcore
  · have hs : s.memory.state = .closed := h.closed fun hk => hfull (h.opened_iff.1 hk)
    have hcount : s.memory.failures.toNat = count := by rw [h.failures]; omega
    have hlt : s.memory.failures.toNat < c.settings.threshold.toNat := by omega
    rcases Turn.cases_of_records hr with ⟨hf, attempt, a, ht⟩ | ⟨hf, attempt, failure, ht⟩
    · have hshift := s.shift
      rw [ht] at hshift
      rw [hf, if_neg Bool.false_ne_true, Nat.add_zero]
      exact h.congr (hshift.of_success_closed hs)
    · have hcounts : s.failsClosed = true := by
        simp only [Step.failsClosed, Bool.and_eq_true, decide_eq_true_eq]
        exact ⟨hs, hf⟩
      obtain ⟨hnext, hopened, hclosed⟩ := Step.next_of_failsClosed hcounts hlt
      rw [hf, if_pos rfl]
      refine ⟨by omega, ?_, fun hk => ?_⟩
      · rw [hopened, ← UInt32.toNat_inj]; omega
      · rw [Ne, hopened, ← UInt32.toNat_inj] at hk
        refine hclosed.2 ?_
        show s.next.failures.toNat < c.settings.threshold.toNat
        omega

/-- After outcomes in a row, however many and in whatever order. -/
theorem Counted.after (records : List (Turn α ε × σ)) {count : Nat} {memory : Memory ε}
    (h : Counted c count memory) (hr : ∀ event ∈ records, event.1.records? ≠ none) :
    Counted c (count + records.countP fun event => event.1.fails) (c.after memory records) := by
  induction records generalizing count memory with
  | nil => exact h
  | cons event records ih =>
    obtain ⟨hfirst, hrest⟩ := List.forall_mem_cons.1 hr
    have hnext := Counted.record (s := ⟨event.1, memory, event.2⟩) h hfirst
    rw [List.countP_cons, Nat.add_comm (records.countP _), ← Nat.add_assoc]
    exact ih hnext hrest

/-- In an open circuit outcomes change nothing. -/
theorem core_after_of_opened (records : List (Turn α ε × σ)) {memory : Memory ε}
    (hr : ∀ event ∈ records, event.1.records? ≠ none) (hk : memory.state.kind = .opened) :
    (c.after memory records).core = memory.core := by
  induction records generalizing memory with
  | nil => rfl
  | cons event records ih =>
    obtain ⟨hfirst, hrest⟩ := List.forall_mem_cons.1 hr
    let s : Step c α ε := ⟨event.1, memory, event.2⟩
    obtain ⟨attempt, hs⟩ := Step.records_of_records? (s := s) hfirst
    obtain ⟨-, hcore⟩ := Step.core_of_records_opened hs hk
    have hstate : s.next.state = memory.state := congrArg Prod.fst hcore
    exact (ih hrest (by rw [hstate]; exact hk)).trans hcore

/-! ## The outcome that decides -/

/-- The first outcome of a race leads out of the half-open state. -/
theorem Step.of_records_halfOpen {s : Step c α ε} (hr : s.turn.records? ≠ none)
    (hs : s.memory.state = .halfOpen) :
    (s.turn.fails = true → s.next.state.kind = .opened) ∧ (s.turn.fails = false → Counted c 0 s.next) := by
  have hpos : 0 < c.settings.threshold.toNat := c.settings.threshold_pos
  have hverdict := Step.entered?_of_halfOpen hs
  rcases Turn.cases_of_records hr with ⟨hf, attempt, a, ht⟩ | ⟨hf, attempt, failure, ht⟩
  · rw [ht] at hverdict
    refine ⟨fun hn => (by rw [hf] at hn; cases hn), fun _ => ?_⟩
    have hstate : s.next.state = .closed := State.kind_eq_closed.1 (s.kind_of_entered? hverdict).1
    have hzero : s.next.failures = 0 := by rw [s.failures_next, hverdict]; rfl
    refine ⟨by rw [hzero]; simp, ?_, fun _ => hstate⟩
    rw [hstate]
    exact ⟨nofun, fun hle => absurd hle (by omega)⟩
  · rw [ht] at hverdict
    exact ⟨fun _ => (s.kind_of_entered? hverdict).1, fun hn => (by rw [hf] at hn; cases hn)⟩

/-- Where racing attempts leave a half-open circuit: the outcome that is recorded first opens it if it is
a failure, and closes it otherwise; then the failures that are recorded later open it again if they are
as many as the threshold. -/
theorem after_race (first : Turn α ε × σ) (later : List (Turn α ε × σ)) {memory : Memory ε}
    (hr : ∀ event ∈ first :: later, event.1.records? ≠ none) (hs : memory.state = .halfOpen) :
    ((c.after memory (first :: later)).state.kind = .opened ↔
      first.1.fails = true ∨ c.settings.threshold.toNat ≤ later.countP fun event => event.1.fails) ∧
    ((c.after memory (first :: later)).state.kind ≠ .opened →
      (c.after memory (first :: later)).state = .closed) := by
  obtain ⟨hfirst, hlater⟩ := List.forall_mem_cons.1 hr
  let s : Step c α ε := ⟨first.1, memory, first.2⟩
  obtain ⟨hopens, hcloses⟩ := Step.of_records_halfOpen (s := s) hfirst hs
  have hafter : c.after memory (first :: later) = c.after s.next later := rfl
  rw [hafter]
  cases hf : first.1.fails with
  | true =>
    have hk : (c.after s.next later).state.kind = .opened := by
      rw [show (c.after s.next later).state = s.next.state from
        congrArg Prod.fst (core_after_of_opened later hlater (hopens hf))]
      exact hopens hf
    exact ⟨⟨fun _ => Or.inl rfl, fun _ => hk⟩, fun hn => absurd hk hn⟩
  | false =>
    have h := (hcloses hf).after later hlater
    rw [Nat.zero_add] at h
    refine ⟨h.opened_iff.trans ⟨Or.inr, fun hor => hor.resolve_left nofun⟩, h.closed⟩

/-! ## Not the last outcome -/

/-- The attempts that ask for admission one after the other, at a clock that stands still. -/
def asking (attempts : List Nat) (world : σ) : List (Turn α ε × σ) :=
  attempts.map fun attempt => (.admission attempt .running, world)

/-- The outcomes that are recorded one after the other, at a clock that stands still. -/
def recordingAll (outcomes : List (Nat × Except ε α)) (world : σ) : List (Turn α ε × σ) :=
  outcomes.map fun outcome => (.recording outcome.1 outcome.2, world)

/-- The outcome that is recorded last decides, in every race of two attempts or more: all are admitted
while the circuit is half-open, and then their outcomes are recorded in any order, with nothing in
between. -/
def LastDecides (c : Circuit σ) (α ε : Type) : Prop :=
  ∀ (early : List (Turn α ε × σ)) (attempts : List Nat) (outcomes : List (Nat × Except ε α)) (world : σ),
    let events := early ++ asking attempts world ++ recordingAll outcomes world
    Orderly (c.steps .initial events) → (c.after .initial early).state = .halfOpen →
    2 ≤ attempts.length → (outcomes.map Prod.fst).Perm attempts →
    ∀ last ∈ outcomes.getLast?, (c.after .initial events).state.kind =
      match last.2 with
      | .ok _ => .closed
      | .error _ => .opened

namespace Bench

/-- A circuit breaker without listeners that opens at the second failure, for a millisecond. -/
def patient : Circuit Bench :=
  ⟨{ fragile.settings with threshold := 2, threshold_pos := by decide }, world .empty⟩

/-- The circuit is opened by hand, and a query turns it half-open. -/
def probing : List (Turn Unit String × Bench) :=
  [(.forceOpen, reading 0), (.kind, reading 1000000)]

end Bench

/-- A success that is recorded after a failure does not close the circuit; and a failure that is recorded
after a success does not open it, unless it reaches the threshold alone. -/
theorem last_outcome_loses :
    ¬ LastDecides Bench.fragile Unit String ∧ ¬ LastDecides Bench.patient Unit String := by
  constructor
  · intro h
    have hk := h Bench.probing [0, 1] [(0, .error "down"), (1, .ok ())] (Bench.reading 1000000)
      (by decide) (by decide) (by decide) (by decide) (1, .ok ()) rfl
    exact absurd hk (by decide)
  · intro h
    have hk := h Bench.probing [0, 1] [(0, .ok ()), (1, .error "down")] (Bench.reading 1000000)
      (by decide) (by decide) (by decide) (by decide) (1, .error "down") rfl
    exact absurd hk (by decide)

/-- Racing attempts: the first outcome decides. Any number of attempts that ask for admission while the
circuit is half-open are all admitted, and leave it half-open. When their outcomes are then recorded, in
any order and with nothing in between, the circuit ends up open if the first of them is a failure, or if
the failures among the others are as many as the threshold; and otherwise it ends up closed. -/
theorem first_outcome_decides (c : Circuit σ) (memory : Memory ε) (hs : memory.state = .halfOpen)
    (asks : List (Turn α ε × σ)) (ha : ∀ event ∈ asks, event.1.asks? ≠ none)
    (first : Turn α ε × σ) (later : List (Turn α ε × σ))
    (hr : ∀ event ∈ first :: later, event.1.records? ≠ none) :
    let asked := c.after memory asks
    let decided := c.after asked (first :: later)
    (∀ s ∈ c.steps memory asks, s.ended.result = .ok .waiting) ∧ asked.state = .halfOpen ∧
    (decided.state.kind = .opened ↔
      first.1.fails = true ∨ c.settings.threshold.toNat ≤ later.countP fun event => event.1.fails) ∧
    (decided.state.kind ≠ .opened → decided.state = .closed) := by
  intro asked decided
  obtain ⟨hall, hasked⟩ := admitted_of_halfOpen (c := c) asks ha hs
  obtain ⟨hopened, hclosed⟩ := after_race first later hr hasked
  exact ⟨hall, hasked, hopened, hclosed⟩

/-- Three attempts race. The success closes the circuit, and the two failures after it open it again. -/
theorem first_outcome_decides_patient :
    let memory : Memory String := ⟨.halfOpen, 2, none⟩
    let world := Bench.reading 7
    let asks : List (Turn Unit String × Bench) := asking [0, 1, 2] world
    let records : List (Turn Unit String × Bench) :=
      recordingAll [(1, .ok ()), (2, .error "down"), (0, .error "down")] world
    memory.state = .halfOpen ∧ (∀ event ∈ asks, event.1.asks? ≠ none) ∧
      (∀ event ∈ records, event.1.records? ≠ none) ∧
      (Bench.patient.after (Bench.patient.after memory asks) records).state.kind = .opened := by
  intro memory world asks records
  have ha : ∀ event ∈ asks, event.1.asks? ≠ none := by decide
  have hr : ∀ event ∈ records, event.1.records? ≠ none := by decide
  obtain ⟨-, -, hopened, -⟩ := first_outcome_decides Bench.patient memory rfl asks ha _ _ hr
  exact ⟨rfl, ha, hr, hopened.2 (Or.inr (by decide))⟩

end CircuitBreaker
