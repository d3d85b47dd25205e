/-
The failure observed last. The history of a run determines it: it is the failure that was recorded
last, unless an attempt has been admitted since. Every rejection carries it, and a circuit that was
opened by a failure never rejects without one.
-/
import CircuitBreaker.Proofs.Ending
import CircuitBreaker.Proofs.Probes

namespace CircuitBreaker

variable {α ε σ : Type} {c : Circuit σ}

/-! ## What the history tells -/

/-- What a step tells of the failure observed last: an attempt that is admitted leaves none, a failure
that is recorded leaves itself, and no other step has a say. -/
def Step.observes? (s : Step c α ε) : Option (Option ε) :=
  match s.turn with
  | .admission _ _ => if waits s.ended.result = true then some none else none
  | .recording _ (.error failure) => some (some failure)
  | .recording _ (.ok _) | .kind | .snapshot | .forceOpen | .forceClose => none

/-- The failure observed last as the history tells it, by the last of its steps that have a say. -/
def lastObserved (steps : List (Step c α ε)) : Option ε :=
  (steps.filterMap Step.observes?).getLast?.join

theorem lastObserved_concat (steps : List (Step c α ε)) (s : Step c α ε) :
    lastObserved (steps ++ [s]) = s.observes?.getD (lastObserved steps) := by
  unfold lastObserved
  rw [List.filterMap_append]
  cases h : s.observes? <;> simp [h]

/-- Where some of the late steps have a say, the early ones have none. -/
theorem lastObserved_append (early : List (Step c α ε)) {late : List (Step c α ε)}
    (h : late.filterMap Step.observes? ≠ []) : lastObserved (early ++ late) = lastObserved late := by
  unfold lastObserved
  rw [List.filterMap_append, List.getLast?_append_of_ne_nil _ h]

/-! ## One step -/

theorem Memory.lastFailure_move (memory : Memory ε) (target : Option State) :
    (memory.move target).lastFailure = memory.lastFailure := by
  cases target <;> rfl

theorem Step.lastFailure_next (s : Step c α ε) :
    s.next.lastFailure = s.observes?.getD s.memory.lastFailure := by
  have hnext : s.next = if waits s.ended.result = true then
      { c.moved s.memory s.world s.turn with lastFailure := none } else c.moved s.memory s.world s.turn :=
    s.turn.memory_call c s.memory s.world
  have hmove : (c.moved s.memory s.world s.turn).lastFailure = (s.turn.primed s.memory).lastFailure :=
    Memory.lastFailure_move _ _
  unfold observes?
  cases ht : s.turn with
  | admission attempt form =>
    rw [hnext]
    by_cases hw : waits s.ended.result = true
    · simp [hw]
    · rw [if_neg hw, hmove, ht]
      simp [hw, Turn.primed]
  | recording attempt outcome =>
    have hw : waits s.ended.result = false := Turn.waits_eq_false c (by rw [ht]; rfl) _ _
    rw [hnext, hw, if_neg Bool.false_ne_true, hmove, ht]
    cases outcome <;> rfl
  | kind | snapshot | forceOpen | forceClose =>
    have hw : waits s.ended.result = false := Turn.waits_eq_false c (by rw [ht]; rfl) _ _
    rw [hnext, hw, if_neg Bool.false_ne_true, hmove, ht]
    rfl

/-- A step that records a failure leaves it, whatever the state and whatever the listener does. -/
theorem Step.observes?_of_fails {s : Step c α ε} (h : s.turn.fails = true) :
    ∃ failure, s.observes? = some (some failure) := by
  unfold observes?
  cases ht : s.turn with
  | recording attempt outcome =>
    cases outcome with
    | error failure => exact ⟨failure, rfl⟩
    | ok a => rw [ht] at h; cases h
  | _ => rw [ht] at h; cases h

/-- A step in an open circuit that stays open leaves a failure if it leaves anything: it admits no
attempt. -/
theorem Step.observes?_of_opened {s : Step c α ε} (hk : s.memory.state.kind = .opened)
    (hn : s.entered? = none) : s.observes? ≠ some none := by
  intro h
  unfold observes? at h
  split at h
  · next attempt form ht =>
    split at h
    · next hw => exact s.not_admits_of_opened hk hn attempt ⟨⟨form, ht⟩, waits_iff.1 hw⟩
    · cases h
  · cases h
  all_goals cases h

/-- A step that rejects an attempt has no say. -/
theorem Step.observes?_of_rejected {s : Step c α ε} {r : Rejection ε}
    (h : s.ended.result = .ok (.refused (.rejected r))) : s.observes? = none := by
  obtain ⟨attempt, form, ht⟩ := Turn.admission_of_rejected c h
  unfold observes?
  rw [ht, h]
  rfl

/-! ## Runs -/

theorem lastFailure_after (events : List (Turn α ε × σ)) :
    (c.after .initial events).lastFailure = lastObserved (c.steps (.initial : Memory ε) events) := by
  refine c.steps_induction (motive := fun steps memory => memory.lastFailure = lastObserved steps)
    rfl (fun steps s ih => ?_) events
  rw [lastObserved_concat, s.lastFailure_next, ih]

/-- As long as a circuit stays open that was opened by a failure, there is a failure observed last. -/
theorem lastObserved_of_since {events : List (Turn α ε × σ)} {memory : Memory ε}
    {early : List (Step c α ε)} {entry : Step c α ε} {period : List (Step c α ε)}
    (h : Since .opened (c.steps memory events) early entry period) (hf : entry.turn.fails = true) :
    lastObserved (c.steps memory events) ≠ none := by
  obtain ⟨failure, hentry⟩ := entry.observes?_of_fails hf
  have hcons : (entry :: period).filterMap Step.observes? =
      some failure :: period.filterMap Step.observes? := List.filterMap_cons_some hentry
  rw [h.split, lastObserved_append early (by rw [hcons]; exact List.cons_ne_nil _ _)]
  unfold lastObserved
  rw [hcons]
  -- each of the steps since the entry that have a say has left a failure
  have hsome : ∀ told ∈ some failure :: period.filterMap Step.observes?, told ≠ none := by
    rintro told ht rfl
    rcases List.mem_cons.1 ht with ht | ht
    · cases ht
    · obtain ⟨s, hs, ho⟩ := List.mem_filterMap.1 ht
      exact Step.observes?_of_opened (h.kind_of_mem hs) (h.stays s hs) ho
  rw [List.getLast?_eq_some_getLast (List.cons_ne_nil _ _)]
  exact hsome _ (List.getLast_mem _)

/-- What a client does besides its turns leaves alone what is remembered: it gives a call up, or its
operation panics. -/
theorem Session.memory_of_given_up (c : Circuit σ) (move : ClockMove → σ → σ) (session : Session α ε σ)
    (id text : String) :
    (session.perform c move (.abandon id)).session.memory = session.memory ∧
      (session.settle c (.panic text)).session.memory = session.memory := by
  refine ⟨?_, rfl⟩
  rw [perform]
  cases session.pending? id <;> rfl

/-- The history determines the failure observed last. After every run from the start, with any turns in
any order and any listeners, it is the failure whose recording is the latest of the failing recordings
and the granted admissions; there is none if the latest is an admission, or if there is neither. In
particular a step that is neither leaves it alone, and so do calls that are given up and operations that
panic, which record nothing. Every rejection carries the failure observed last; and if the open state was
entered last by recording a failure, every rejection until it is left carries one. -/
theorem lastFailure_exact (c : Circuit σ) (events : List (Turn α ε × σ)) :
    (c.after .initial events).lastFailure = lastObserved (c.steps (.initial : Memory ε) events) ∧
    (∀ before s after, c.steps .initial events = before ++ s :: after →
      (s.observes? = none → s.next.lastFailure = s.memory.lastFailure) ∧
      (∀ r, s.ended.result = .ok (.refused (.rejected r)) →
        s.observes? = none ∧ r.lastFailure = lastObserved before ∧
        ∀ early entry period, Since .opened before early entry period → entry.turn.fails = true →
          r.lastFailure ≠ none)) ∧
    (∀ (move : ClockMove → σ → σ) (session : Session α ε σ) (id text : String),
      (session.perform c move (.abandon id)).session.memory = session.memory ∧
      (session.settle c (.panic text)).session.memory = session.memory) := by
  refine ⟨lastFailure_after events, fun before s after hs => ⟨fun hn => ?_, fun r hr => ?_⟩,
    fun move session id text => session.memory_of_given_up c move id text⟩
  · rw [s.lastFailure_next, hn]; rfl
  · obtain ⟨earlier, later, -, rfl, hm, -⟩ := c.steps_eq_append hs
    have hlast : r.lastFailure = lastObserved (c.steps .initial earlier) := by
      rw [(Turn.memory_of_rejected c hr).1, hm, lastFailure_after]
    refine ⟨s.observes?_of_rejected hr, hlast, fun early entry period hsince hf => ?_⟩
    rw [hlast]
    exact lastObserved_of_since hsince hf

/-- An attempt fails and opens the circuit, and the next one is rejected with its failure. -/
theorem lastFailure_exact_fragile :
    let events : List (Turn Unit String × Bench) :=
      [(.admission 0 .running, Bench.reading 0), (.recording 0 (.error "down"), Bench.reading 0)]
    let memory : Memory String := Bench.fragile.after .initial events
    let s : Step Bench.fragile Unit String := ⟨.admission 1 .running, memory, Bench.reading 5⟩
    memory.lastFailure = some "down" ∧
      ∃ r, s.ended.result = .ok (.refused (.rejected r)) ∧ s.observes? = none ∧ r.lastFailure = some "down" := by
  intro events memory s
  obtain ⟨hlast, -, -⟩ := lastFailure_exact Bench.fragile events
  obtain ⟨-, hsteps, -⟩ := lastFailure_exact Bench.fragile (events ++ [(s.turn, s.world)])
  obtain ⟨r, hr⟩ : ∃ r, s.ended.result = .ok (.refused (.rejected r)) := ⟨_, rfl⟩
  have hs : Bench.fragile.steps .initial (events ++ [(s.turn, s.world)]) =
    Bench.fragile.steps .initial events ++ s :: [] := Bench.fragile.steps_concat events s.turn s.world .initial
  obtain ⟨hnone, hrejection, -⟩ := (hsteps _ s [] hs).2 r hr
  exact ⟨hlast, r, hr, hnone, hrejection⟩

end CircuitBreaker
