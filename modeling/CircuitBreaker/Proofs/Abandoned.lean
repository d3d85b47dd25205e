/-
Attempts that are abandoned. An attempt that has been admitted records nothing if its operation panics
or if its future is dropped, and then it has done no more than a query: it has refreshed the state, and
besides made the failure observed last be forgotten. A future that is never polled has done nothing.
-/
import CircuitBreaker.Proofs.Ending
import CircuitBreaker.Proofs.SessionsAlike

namespace CircuitBreaker

variable {α ε σ : Type} {c : Circuit σ} {move : ClockMove → σ → σ}

/-! ## An admission next to a query -/

/-- An attempt that is admitted leaves what a query would leave, but for the failure observed last. -/
theorem Circuit.admission_of_admitted {memory : Memory ε} {world : σ}
    (h : (c.admission memory world).result = .ok none) :
    let queried := c.kind memory world
    c.admission memory world =
        ⟨.ok none, { queried.memory with lastFailure := none }, queried.world, queried.notes⟩ ∧
      ∃ kind, queried.result = .ok kind ∧ kind ≠ .opened := by
  intro queried
  cases hr : (c.refresh memory world).result with
  | error text =>
    have hadmission : c.admission memory world = _ := Call.bind_panic hr
    rw [hadmission] at h
    cases h
  | ok u =>
    have hadmission : c.admission memory world = _ := Call.bind_ok hr
    have hqueried : queried = _ := Call.bind_ok hr
    cases ha : (c.refresh memory world).memory.state.admits with
    | false =>
      rw [hadmission, c.decision_of_rejects ha] at h
      cases h
    | true =>
      rw [c.decision_of_admits ha] at hadmission
      rw [hadmission, hqueried]
      refine ⟨rfl, _, rfl, fun hk => ?_⟩
      rw [State.admits_eq_false_iff.2 hk] at ha
      cases ha

theorem Circuit.alike_admission_kind {memory : Memory ε} {world : σ}
    (h : (c.admission memory world).result = .ok none) :
    (c.admission memory world).Alike Whichever id (fun _ kind => kind ≠ .opened) (c.kind memory world) := by
  obtain ⟨hadmission, kind, hkind, hk⟩ := c.admission_of_admitted h
  rw [hadmission]
  refine ⟨?_, ⟨rfl, trivial⟩, rfl, rfl⟩
  rw [hkind]
  exact .value hk

/-- In the place of an admission that is granted a query makes the same move and runs the same listener
at the same readings, and leaves the same surroundings, state and count of failures. -/
theorem Step.query_of_admits {s : Step c α ε} {attempt : Nat} {form : Form}
    (ht : s.turn = .admission attempt form) (ha : s.Admits attempt) :
    let queried : Step c α ε := ⟨.kind, s.memory, s.world⟩
    s.notes = queried.notes ++ form.notes ∧ s.ended.world = queried.ended.world ∧
      s.next.Alike Whichever queried.next := by
  intro queried
  have hadmission := Step.admission_of_admits ht ha
  have hturn : s.ended = _ := (congrArg (fun t : Turn α ε => t.call c s.memory s.world) ht).trans
    (Turn.call_admission_of_eq attempt form hadmission)
  have hqueried : queried.ended = _ := Call.bind_pure_apply c.kind Answer.kind s.memory s.world
  have hcall := (c.admission_of_admitted hadmission).1
  rw [notes, next, hturn, Step.notes, Step.next, hqueried, hcall]
  exact ⟨rfl, rfl, rfl, trivial⟩

/-! ## Order without the attempt -/

/-- What a step means for the order of others: its turn, and whether an attempt goes on to wait in it. -/
def Step.mark (s : Step c α ε) : Turn α ε × Bool := (s.turn, waits s.ended.result)

/-- The turn comes in order after steps with these marks. -/
def Turn.InOrder (marks : List (Turn α ε × Bool)) : Turn α ε → Prop
  | .admission attempt _ => ∀ m ∈ marks, m.1.attempt? ≠ some attempt
  | .recording attempt _ =>
    (∃ m ∈ marks, m.1.asks? = some attempt ∧ m.2 = true) ∧ ∀ m ∈ marks, m.1.records? ≠ some attempt
  | _ => True

theorem Step.inOrder_iff {s : Step c α ε} {before : List (Step c α ε)} :
    s.InOrder before ↔ s.turn.InOrder (before.map Step.mark) := by
  have hadmits (t : Step c α ε) (attempt : Nat) :
      t.Admits attempt ↔ t.turn.asks? = some attempt ∧ waits t.ended.result = true :=
    and_congr Turn.asks?_eq_some.symm waits_iff.symm
  have hrecords (t : Step c α ε) (attempt : Nat) : t.Records attempt ↔ t.turn.records? = some attempt :=
    Turn.records?_eq_some.symm
  unfold Step.InOrder
  cases s.turn with
  | admission attempt form => simp [Turn.InOrder, mark]
  | recording attempt outcome => simp [Turn.InOrder, InFlight, mark, hadmits, hrecords]
  | kind | snapshot | forceOpen | forceClose => exact Iff.rfl

theorem ResultAlike.waits {L : Option ε → Option ε → Prop} {result result' : Except String (Answer α ε)}
    (h : ResultAlike (Answer.Alike L) result result') :
    CircuitBreaker.waits result = CircuitBreaker.waits result' := by
  cases h with
  | panic text => rfl
  | value h => cases h <;> rfl

theorem marks_eq {L : Option ε → Option ε → Prop} {shown : σ → σ} {steps steps' : List (Step c α ε)}
    (h : List.Forall₂ (Step.Alike L shown) steps steps') : steps.map Step.mark = steps'.map Step.mark := by
  induction h with
  | nil => rfl
  | cons hs _ ih =>
    rw [List.map_cons, List.map_cons, ih, Step.mark, Step.mark, hs.turn, hs.ended.result.waits]

/-- A turn that comes in order does so without an admission of another attempt, in whose place is a
query. -/
theorem Turn.InOrder.query {turn : Turn α ε} {early late : List (Turn α ε × Bool)} {attempt : Nat}
    {form : Form} {granted waited : Bool} (h : turn.InOrder (early ++ (.admission attempt form, granted) :: late))
    (hr : turn.records? ≠ some attempt) : turn.InOrder (early ++ (.kind, waited) :: late) := by
  cases turn with
  | admission other form' =>
    obtain ⟨hearly, hlate⟩ := List.forall_mem_append.1 h
    obtain ⟨-, hlate⟩ := List.forall_mem_cons.1 hlate
    exact List.forall_mem_append.2 ⟨hearly, List.forall_mem_cons.2 ⟨nofun, hlate⟩⟩
  | recording other outcome =>
    obtain ⟨⟨m, hm, hasks, hwaits⟩, hnot⟩ := h
    obtain ⟨hearly, hlate⟩ := List.forall_mem_append.1 hnot
    obtain ⟨-, hlate⟩ := List.forall_mem_cons.1 hlate
    refine ⟨⟨m, ?_, hasks, hwaits⟩, List.forall_mem_append.2 ⟨hearly, List.forall_mem_cons.2 ⟨nofun, hlate⟩⟩⟩
    rcases List.mem_append.1 hm with hm | hm
    · exact List.mem_append_left _ hm
    · rcases List.mem_cons.1 hm with rfl | hm
      · -- the admission is that of the attempt that is abandoned
        exact absurd hasks.symm hr
      · exact List.mem_append_right _ (List.mem_cons_of_mem _ hm)
  | kind | snapshot | forceOpen | forceClose => trivial

/-- A run in which an attempt records nothing stays in order if a query takes the place of its
admission. -/
theorem orderly_query {memory : Memory ε} {early : List (Turn α ε × σ)} {attempt : Nat} {form : Form} {world : σ}
    (ha : (⟨.admission attempt form, c.after memory early, world⟩ : Step c α ε).Admits attempt)
    (late : List (Turn α ε × σ))
    (ho : Orderly (c.steps memory (early ++ (.admission attempt form, world) :: late)))
    (hn : ∀ s ∈ c.steps (⟨.admission attempt form, c.after memory early, world⟩ : Step c α ε).next late,
      ¬ s.Records attempt) :
    Orderly (c.steps memory (early ++ (.kind, world) :: late)) := by
  induction late using List.reverseRecOn with
  | nil =>
    rw [c.steps_concat] at ho ⊢
    exact orderly_concat.2 ⟨(orderly_concat.1 ho).1, trivial⟩
  | append_singleton late event ih =>
    obtain ⟨turn, world'⟩ := event
    rw [c.steps_concat] at hn
    obtain ⟨hn, hlast⟩ := List.forall_mem_append.1 hn
    have hlast := List.forall_mem_singleton.1 hlast
    rw [← List.cons_append, ← List.append_assoc, c.steps_concat] at ho ⊢
    obtain ⟨ho, hs⟩ := orderly_concat.1 ho
    refine orderly_concat.2 ⟨ih ho hn, ?_⟩
    -- the marks of the other steps are the same
    have halike := (Step.query_of_admits rfl ha).2.2
    have hmarks := marks_eq (steps_alike (fun _ => trivial) c.world.told_id late halike).1
    rw [Step.inOrder_iff, c.steps_append, List.map_append, Circuit.steps, List.map_cons] at hs ⊢
    rw [hmarks] at hs
    exact hs.query fun hr => hlast (Turn.records?_eq_some.1 hr)

/-! ## Operations that panic -/

section

variable {session : Session α ε σ}

/-- After an admission a session goes on as after a query. -/
theorem Session.having_admission (h : (c.admission session.memory session.world).result = .ok none) :
    let asked := c.admission session.memory session.world
    let queried := c.kind session.memory session.world
    asked.notes = queried.notes ∧
      (session.having asked).Alike Whichever (fun _ => Eq) (session.having queried) := by
  obtain ⟨-, hmemory, hworld, hnotes⟩ := c.alike_admission_kind h
  exact ⟨hnotes, hmemory, hworld, fun _ => rfl⟩

/-- A session in which the operation of an attempt panics goes on as if there had been a query in place
of the attempt. -/
theorem Session.panicked_as_query (h : (c.admission session.memory session.world).result = .ok none)
    (text : String) (during late : List (Action α ε)) :
    let queried := c.kind session.memory session.world
    ∃ nested after later last,
      performAll c move (.attempt .running (.panic text) during :: late) session =
        (.mk (.panicked text) (queried.notes ++ [.started]) nested [] after :: later, last) ∧
      Report.AllAlike Whichever (fun _ => Eq) (nested ++ later, last)
        (performAll c move (during ++ late) (session.having queried)) := by
  intro queried
  obtain ⟨hnotes, halike⟩ := having_admission h
  let ran := performAll c move during (session.having (c.admission session.memory session.world))
  let rest := performAll c move late ran.2
  have hduring : Report.AllAlike Whichever (fun _ => Eq) ran (performAll c move during (session.having queried)) :=
    halike.performAll (fun _ => trivial) during fun _ _ => rfl
  have hlate : Report.AllAlike Whichever (fun _ => Eq) rest
      (performAll c move late (performAll c move during (session.having queried)).2) :=
    hduring.session.performAll (fun _ => trivial) late fun _ _ => rfl
  refine ⟨ran.1, ran.2, rest.1, rest.2, ?_, ?_⟩
  · rw [performAll, perform_running_of_admitted h]
    dsimp only
    rw [hnotes]
    rfl
  · rw [performAll_append]
    exact hduring.append hlate

/-! ## Futures that are given up -/

/-- How a future is given up that waits under a name: it is dropped, before or after its operation has
ended, or it is polled once more and its operation panics. -/
inductive GivesUp (id : String) : List (Action α ε) → Prop
  | dropped : GivesUp id [.abandon id]
  | unheeded (outcome : Outcome α ε) : GivesUp id [.resolve id outcome, .abandon id]
  | panicked (text : String) : GivesUp id [.resolve id (.panic text), .poll id]

/-- The future is gone, and nothing has happened. -/
theorem GivesUp.performAll {id : String} {ending : List (Action α ε)} (h : GivesUp id ending)
    (hp : session.pending? id = some ⟨true, none⟩) :
    Report.timelines (Session.performAll c move ending session).1 = [] ∧
      session.Less id (Session.performAll c move ending session).2 := by
  -- the last action finds the future resolved, and leaves a session without it
  have hresolved (outcome : Outcome α ε) (answer : Answer α ε) {action : Action α ε}
      (hlast : Session.perform c move action (session.withCall id ⟨true, some outcome⟩) =
        ((session.withCall id ⟨true, some outcome⟩).without id).report answer []) :
      Report.timelines (Session.performAll c move [.resolve id outcome, action] session).1 = [] ∧
        session.Less id (Session.performAll c move [.resolve id outcome, action] session).2 := by
    have hresolve : Session.perform c move (.resolve id outcome) session =
        (session.withCall id ⟨true, some outcome⟩).report .resolved [] :=
      Session.perform_resolve hp outcome
    have hboth : Session.performAll c move [.resolve id outcome, action] session =
        ([(session.withCall id ⟨true, some outcome⟩).report .resolved [],
          ((session.withCall id ⟨true, some outcome⟩).without id).report answer []],
          (session.withCall id ⟨true, some outcome⟩).without id) := by
      simp only [Session.performAll, hresolve, Report.session, Session.report] at hlast ⊢
      rw [hlast]
    rw [hboth]
    refine ⟨?_, session.less_without_withCall id _⟩
    simp only [Report.timelines, Session.timeline_report, List.append_nil]
  have hwaits (outcome : Outcome α ε) :
      (session.withCall id ⟨true, some outcome⟩).pending? id = some ⟨true, some outcome⟩ :=
    session.pending?_withCall_self id _
  cases h with
  | dropped =>
    have hdrop : Session.perform c move (.abandon id) session = (session.without id).report .abandoned [] := by
      simp only [Session.perform, hp]
    simp only [Session.performAll, Report.timelines, hdrop, Session.timeline_report]
    exact ⟨rfl, session.less_without id⟩
  | unheeded outcome => exact hresolved outcome .abandoned (by simp only [Session.perform, hwaits])
  | panicked text => exact hresolved (.panic text) (.panicked text) (Session.poll_admitted (hwaits _) rfl)

/-- A session in which a future is polled once and then given up goes on as if there had been a query in
place of the poll, and no future. -/
theorem Session.given_up_as_query {id : String} (hp : session.pending? id = some ⟨false, none⟩)
    (h : (c.admission session.memory session.world).result = .ok none) {mid ending : List (Action α ε)}
    (hmid : id ∉ Action.idsAll mid) (hend : GivesUp id ending) (late : List (Action α ε)) :
    let queried := c.kind session.memory session.world
    ∃ after before ends later last,
      performAll c move (.poll id :: (mid ++ (ending ++ late))) session =
        (.mk .waiting (queried.notes ++ [.started]) [] [] after :: (before ++ (ends ++ later)), last) ∧
      Report.timelines ends = [] ∧
      Report.AllAlike Whichever (fun _ => Eq) (before ++ later, last)
        (performAll c move (mid ++ late) ((session.without id).having queried)) := by
  intro queried
  obtain ⟨hnotes, hthen⟩ := having_admission h
  let waiting := (session.having (c.admission session.memory session.world)).withCall id ⟨true, none⟩
  let without := (session.having queried).without id
  have halike : waiting.Alike Whichever (Waiting id ⟨true, none⟩) without :=
    hthen.waiting (less_without _ id) _
  -- between the two polls the future waits, and it is gone at the end
  let between := performAll c move mid waiting
  let between' := performAll c move mid without
  obtain ⟨hbetween, hstill⟩ : Report.AllAlike Whichever (Waiting id ⟨true, none⟩) between between' ∧
      between.2.pending? id = some ⟨true, none⟩ :=
    halike.performAll_waiting (fun _ => trivial) mid hmid
  let ended := performAll c move ending between.2
  obtain ⟨hsilent, hless⟩ : Report.timelines ended.1 = [] ∧ between.2.Less id ended.2 := hend.performAll hstill
  let rest := performAll c move late ended.2
  have hlate : Report.AllAlike Whichever (fun _ => Eq) rest (performAll c move late between'.2) :=
    (hbetween.session.less hless).performAll (fun _ => trivial) late fun _ _ => rfl
  refine ⟨waiting, between.1, ended.1, rest.1, rest.2, ?_, hsilent, ?_⟩
  · have hpoll : perform c move (.poll id) session = _ := poll_waiting hp h
    rw [performAll, hpoll, performAll_append, performAll_append, hnotes]
    rfl
  · show Report.AllAlike _ _ _ (performAll c move (mid ++ late) without)
    rw [performAll_append]
    exact hbetween.append hlate

/-- A session in which the operation of a future panics as soon as it is polled goes on as if there had
been a query in place of the poll, and no future. -/
theorem Session.panicked_at_once_as_query {id text : String}
    (hp : session.pending? id = some ⟨false, some (.panic text)⟩)
    (h : (c.admission session.memory session.world).result = .ok none) (late : List (Action α ε)) :
    let queried := c.kind session.memory session.world
    ∃ after later last,
      performAll c move (.poll id :: late) session =
        (.mk (.panicked text) (queried.notes ++ [.started]) [] [] after :: later, last) ∧
      Report.AllAlike Whichever (fun _ => Eq) (later, last)
        (performAll c move late ((session.without id).having queried)) := by
  intro queried
  obtain ⟨hnotes, hthen⟩ := having_admission h
  let ended := (session.having (c.admission session.memory session.world)).without id
  have halike : ended.Alike Whichever (fun _ => Eq) ((session.without id).having queried) := hthen.without rfl
  have hpoll : perform c move (.poll id) session = .mk (.panicked text) (queried.notes ++ [.started]) [] [] ended := by
    show session.poll c id = _
    rw [poll_prepared hp rfl, request, h, ← hnotes]
    rfl
  refine ⟨ended, (performAll c move late ended).1, (performAll c move late ended).2, ?_, ?_⟩
  · rw [performAll, hpoll]
    rfl
  · exact halike.performAll (fun _ => trivial) late fun _ _ => rfl

/-! ## Futures that are never polled -/

/-- What is done to a future that is never polled shows nowhere, and may as well be left out. -/
theorem Session.never_polled (session : Session α ε σ) (id : String) {actions : List (Action α ε)}
    (h : id ∉ Action.polledAll actions) :
    let ended := performAll c move actions session
    let ended' := performAll c move (Action.bareAll (· = id) actions) session
    Report.timelines ended.1 = Report.timelines ended'.1 ∧ Report.toldAll ended.1 = Report.toldAll ended'.1 ∧
      ended.2.memory = ended'.2.memory ∧ ended.2.world = ended'.2.world ∧
      ∀ other, other ≠ id → ended.2.pending? other = ended'.2.pending? other := by
  intro ended ended'
  let P (other : String) (p p' : Option (Pending α ε)) : Prop := other = id ∨ p = p'
  have hP {other : String} (ho : other ≠ id) : P other = Eq := by
    funext p p'
    exact propext (or_iff_right ho)
  have hfree (other : String) (ho : decide (other = id) = true) (p p' : Option (Pending α ε)) : P other p p' :=
    Or.inl (of_decide_eq_true ho)
  have hall : Report.AllAlike Eq P ended ended' := by
    refine alike_performAll (fun _ => rfl) hfree actions (fun other _ ho => hP (of_decide_eq_false ho))
      (fun other ho => decide_eq_false ?_) ⟨⟨rfl, rfl⟩, rfl, fun other => Or.inr rfl⟩
    rintro rfl
    exact h ho
  refine ⟨hall.timeline, told_eq_of_alike hall.told, hall.session.memory.eq, hall.session.world, fun other ho => ?_⟩
  have hcalls := hall.session.calls other
  rwa [hP ho] at hcalls

end

/-! ## What abandoned attempts leave -/

/-- Attempts that are abandoned record nothing. In every run, if an attempt is admitted and its outcome is
never recorded, a query may take the place of its admission: it gives the same notices, but for the start
of the operation, and leaves the same surroundings; every later turn goes on from the same state and count
of failures to the same, with the same notices and the same answers but for what these tell of the failure
observed last; and the attempts that are left keep their order. So it is in sessions. If the operation of an
attempt panics, or a future is dropped after it has been polled, or panics, then what clients do in between
and afterwards is as if there had been a query in place of the attempt or the first poll, and no future.
And what is done to a future that is never polled can be left out of a session, wherever it is done,
without any difference. -/
theorem abandoned_as_query (c : Circuit σ) (move : ClockMove → σ → σ) :
    (∀ (early late : List (Turn α ε × σ)) (attempt : Nat) (form : Form) (world : σ),
      let asked : Step c α ε := ⟨.admission attempt form, c.after .initial early, world⟩
      let queried : Step c α ε := ⟨.kind, c.after .initial early, world⟩
      asked.Admits attempt → (∀ s ∈ c.steps asked.next late, ¬ s.Records attempt) →
      asked.notes = queried.notes ++ form.notes ∧ asked.ended.world = queried.ended.world ∧
      List.Forall₂ (Step.Alike Whichever id) (c.steps asked.next late) (c.steps queried.next late) ∧
      (c.after asked.next late).Alike Whichever (c.after queried.next late) ∧
      (Orderly (c.steps .initial (early ++ (.admission attempt form, world) :: late)) →
        Orderly (c.steps .initial (early ++ (.kind, world) :: late)))) ∧
    (∀ session : Session α ε σ, (c.admission session.memory session.world).result = .ok none →
      let queried := c.kind session.memory session.world
      (∀ text during late, ∃ nested after later last,
        session.performAll c move (.attempt .running (.panic text) during :: late) =
          (.mk (.panicked text) (queried.notes ++ [.started]) nested [] after :: later, last) ∧
        Report.AllAlike Whichever (fun _ => Eq) (nested ++ later, last)
          (Session.performAll c move (during ++ late) (session.having queried))) ∧
      (∀ id mid ending late, session.pending? id = some ⟨false, none⟩ → id ∉ Action.idsAll mid →
        GivesUp id ending → ∃ after before ends later last,
        session.performAll c move (.poll id :: (mid ++ (ending ++ late))) =
          (.mk .waiting (queried.notes ++ [.started]) [] [] after :: (before ++ (ends ++ later)), last) ∧
        Report.timelines ends = [] ∧
        Report.AllAlike Whichever (fun _ => Eq) (before ++ later, last)
          (Session.performAll c move (mid ++ late) ((session.without id).having queried))) ∧
      (∀ id text late, session.pending? id = some ⟨false, some (.panic text)⟩ → ∃ after later last,
        session.performAll c move (.poll id :: late) =
          (.mk (.panicked text) (queried.notes ++ [.started]) [] [] after :: later, last) ∧
        Report.AllAlike Whichever (fun _ => Eq) (later, last)
          (Session.performAll c move late ((session.without id).having queried)))) ∧
    (∀ (session : Session α ε σ) (id : String) (actions : List (Action α ε)),
      id ∉ Action.polledAll actions →
      let ended := session.performAll c move actions
      let ended' := session.performAll c move (Action.bareAll (· = id) actions)
      Report.timelines ended.1 = Report.timelines ended'.1 ∧ Report.toldAll ended.1 = Report.toldAll ended'.1 ∧
        ended.2.memory = ended'.2.memory ∧ ended.2.world = ended'.2.world ∧
        ∀ other, other ≠ id → ended.2.pending? other = ended'.2.pending? other) := by
  refine ⟨?_, ?_, fun session id actions hid => session.never_polled id hid⟩
  · intro early late attempt form world asked queried ha hn
    obtain ⟨hnotes, hworld, halike⟩ := Step.query_of_admits (s := asked) rfl ha
    obtain ⟨hsteps, hafter⟩ := steps_alike (fun _ => trivial) c.world.told_id late halike
    exact ⟨hnotes, hworld, hsteps, hafter, fun ho => orderly_query ha late ho hn⟩
  · intro session h queried
    refine ⟨fun text during late => ?_, fun id mid ending late hp hmid hend => ?_, fun id text late hp => ?_⟩
    · exact Session.panicked_as_query h text during late
    · exact Session.given_up_as_query hp h hmid hend late
    · exact Session.panicked_at_once_as_query hp h late

namespace Bench

/-- A failure opens the circuit. -/
def broken : List (Turn Unit String × Bench) :=
  [(.admission 0 .running, reading 0), (.recording 0 (.error "down"), reading 0)]

end Bench

/-- A probe is admitted after the cooldown and abandoned. The next attempt finds the circuit half-open, as
it would after a query. -/
theorem abandoned_as_query_fragile :
    let asked : Step Bench.fragile Unit String :=
      ⟨.admission 1 .running, Bench.fragile.after .initial Bench.broken, Bench.reading 1000000⟩
    let late : List (Turn Unit String × Bench) := [(.admission 2 .running, Bench.reading 1000000)]
    asked.Admits 1 ∧ (∀ s ∈ Bench.fragile.steps asked.next late, ¬ s.Records 1) ∧
      Orderly (Bench.fragile.steps (.initial : Memory String)
        (Bench.broken ++ (.kind, Bench.reading 1000000) :: late)) := by
  intro asked late
  have ha : asked.Admits 1 := by decide
  have hn : ∀ s ∈ Bench.fragile.steps asked.next late, ¬ s.Records 1 := by decide
  have ho : Orderly (Bench.fragile.steps (.initial : Memory String)
      (Bench.broken ++ (asked.turn, asked.world) :: late)) := by decide
  obtain ⟨hruns, -⟩ := abandoned_as_query (α := Unit) (ε := String) Bench.fragile Bench.move
  obtain ⟨-, -, -, -, horder⟩ := hruns Bench.broken late 1 .running (Bench.reading 1000000) ha hn
  exact ⟨ha, hn, horder ho⟩

end CircuitBreaker
