/-
Faithful attempts. What an attempt returns tells what its operation did: its outcome if it ran, whatever
has become of the circuit in the meantime, and a rejection if it did not. An operation runs at most once,
and a rejected attempt leaves everything as it was: a refresh that changes the state leads to one that lets
the attempt pass.
-/
import CircuitBreaker.Proofs.Ending
import CircuitBreaker.Proofs.Flattening

namespace CircuitBreaker

variable {α ε σ : Type} {c : Circuit σ} {move : ClockMove → σ → σ}

/-- No listener ever panics. -/
def World.Returns (w : World σ) : Prop := ∀ kind world, (w.notify kind world).1 = none

theorem World.Returns.told (h : c.world.Returns) (world : σ) (target : Option State) :
    (c.told world target).1 = none := by
  cases target with
  | none => rfl
  | some next => exact h next.kind world

/-! ## The turns of an attempt -/

/-- A rejected attempt changes nothing, runs no listener and starts nothing. -/
theorem Step.of_rejected {s : Step c α ε} {r : Rejection ε} (h : s.ended.result = .ok (.refused (.rejected r))) :
    s.next = s.memory ∧ fired s.notes = [] ∧ Note.started ∉ s.notes := by
  obtain ⟨attempt, form, hturn⟩ := Turn.admission_of_rejected c h
  have hnext : s.next = s.memory := (Turn.memory_of_rejected c h).2
  refine ⟨hnext, ?_, fun hs => ?_⟩
  · have hentered : s.entered? = none := by
      unfold entered?
      rw [hnext, hturn]
      exact if_neg (by rintro (hb | hn) <;> [cases hb; exact hn rfl])
    rw [s.fired_notes, hentered]
    rfl
  · obtain ⟨_, _, _, hw⟩ := Turn.waiting_of_started c hs
    rw [show s.ended.result = _ from hw] at h
    cases h

/-- What an attempt that asks for admission gets where listeners do not panic. -/
theorem Step.of_admission (hc : c.world.Returns) {s : Step c α ε} {attempt : Nat} {form : Form}
    (hturn : s.turn = .admission attempt form) :
    s.Admits attempt ∨ ∃ r, s.ended.result = .ok (.refused (.rejected r)) := by
  obtain ⟨turn, memory, world⟩ := s
  obtain rfl : turn = _ := hturn
  rcases Turn.admission_returns c (hc.told _ _) with ⟨hw, -⟩ | ⟨r, hr, -⟩
  · exact Or.inl ⟨⟨form, rfl⟩, hw⟩
  · exact Or.inr ⟨r, hr⟩

theorem Circuit.count_started_admission (memory : Memory ε) (world : σ) :
    (c.admission memory world).notes.count .started = 0 :=
  List.count_eq_zero.2 (c.started_notMem_admission memory world)

/-- The operation of an admitted attempt starts once, if it is something to run. -/
theorem Step.started_of_admits {s : Step c α ε} {attempt : Nat} {form : Form}
    (hturn : s.turn = .admission attempt form) (h : s.Admits attempt) :
    s.notes.count .started = if form = .running then 1 else 0 := by
  have hcall : s.ended = _ := (congrArg (fun t : Turn α ε => t.call c s.memory s.world) hturn).trans
    (Turn.call_admission_of_eq attempt form (Step.admission_of_admits hturn h))
  rw [notes, hcall, List.count_append, Circuit.count_started_admission]
  cases form <;> rfl

/-- Recording an outcome answers with it, in whatever state. -/
theorem Circuit.record_returns (hc : c.world.Returns) (outcome : Except ε α) (memory : Memory ε) (world : σ) :
    (c.record outcome memory world).result = .ok (outcome.mapError .failed) := by
  have hmove (target : Option State) (memory : Memory ε) (world : σ) :
      (c.transition? target memory world).result = .ok () := by
    rw [c.transition?_apply, hc.told]
    rfl
  rw [c.record_apply 0, Call.bind_ok (hmove _ _ _)]
  rfl

/-- Recording starts nothing. -/
theorem Step.started_notMem_recording {s : Step c α ε} {attempt : Nat} (h : s.Records attempt) :
    Note.started ∉ s.notes := by
  obtain ⟨outcome, hturn⟩ := h
  intro hs
  obtain ⟨_, _, hadmission, -⟩ := Turn.waiting_of_started c hs
  rw [hturn] at hadmission
  cases hadmission

theorem Step.of_recording (hc : c.world.Returns) {s : Step c α ε} {attempt : Nat} {outcome : Except ε α}
    (hturn : s.turn = .recording attempt outcome) :
    s.ended.result = .ok (Session.answerOf (outcome.mapError .failed)) := by
  obtain ⟨turn, memory, world⟩ := s
  obtain rfl : turn = _ := hturn
  have hcall : Step.ended (⟨.recording attempt outcome, memory, world⟩ : Step c α ε) = _ :=
    Call.bind_pure_apply (c.record outcome) Session.answerOf memory world
  rw [hcall, c.record_returns hc]
  rfl

/-! ## Attempts in runs -/

section

variable {steps : List (Step c α ε)} {attempt : Nat}

theorem Step.started_le_one (s : Step c α ε) : s.notes.count .started ≤ 1 := by
  by_cases hs : Note.started ∈ s.notes
  · obtain ⟨attempt, form, hturn, hw⟩ := Turn.waiting_of_started c hs
    rw [Step.started_of_admits hturn ⟨⟨form, hturn⟩, hw⟩]
    cases form <;> decide
  · rw [List.count_eq_zero.2 hs]
    exact Nat.zero_le 1

/-- In order, the operation of an attempt starts at most once. -/
theorem started_le_one_of_orderly (h : Orderly steps) (attempt : Nat) :
    ((stepsOf attempt steps).flatMap Step.notes).count .started ≤ 1 := by
  rcases stepsOf_orderly h attempt with hnone | ⟨s, form, hone, -⟩ | ⟨s, t, form, htwo, -, ht⟩
  · rw [hnone]
    exact Nat.zero_le 1
  · rw [hone, List.flatMap_singleton]
    exact s.started_le_one
  · have hrecording : t.notes.count Note.started = 0 := List.count_eq_zero.2 (Step.started_notMem_recording ht)
    rw [htwo, List.flatMap_cons, List.flatMap_singleton, List.count_append, hrecording]
    exact s.started_le_one

/-- In order, what is recorded has been admitted. -/
theorem Orderly.admits_of_records (h : Orderly steps) {t : Step c α ε} (ht : t ∈ steps) (hr : t.Records attempt) :
    ∃ s ∈ steps, s.Admits attempt := by
  obtain ⟨before, after, rfl⟩ := List.append_of_mem ht
  have horder := h before t after rfl
  obtain ⟨outcome, hturn⟩ := hr
  unfold Step.InOrder at horder
  rw [hturn] at horder
  obtain ⟨s, hs, ha⟩ := horder.1
  exact ⟨s, List.mem_append_left _ hs, ha⟩

theorem mem_stepsOf {s : Step c α ε} : s ∈ stepsOf attempt steps ↔ s ∈ steps ∧ s.turn.attempt? = some attempt := by
  unfold stepsOf
  rw [List.mem_filter, decide_eq_true_iff]

/-- In order, an attempt asks for admission once. -/
theorem Orderly.admission_unique (h : Orderly steps) {s t : Step c α ε} (hs : s ∈ steps) (ht : t ∈ steps)
    {form form' : Form} (hsturn : s.turn = .admission attempt form) (htturn : t.turn = .admission attempt form') :
    s = t := by
  have hsof : s ∈ stepsOf attempt steps := mem_stepsOf.2 ⟨hs, by rw [hsturn]; rfl⟩
  have htof : t ∈ stepsOf attempt steps := mem_stepsOf.2 ⟨ht, by rw [htturn]; rfl⟩
  rcases stepsOf_orderly h attempt with hnone | ⟨u, _, hone, -⟩ | ⟨u, v, _, htwo, -, outcome, hv⟩
  · rw [hnone] at hsof
    cases hsof
  · rw [hone, List.mem_singleton] at hsof htof
    rw [hsof, htof]
  · -- the other step of the attempt is a recording
    have hfirst {w : Step c α ε} {form : Form} (hw : w ∈ stepsOf attempt steps)
        (hturn : w.turn = .admission attempt form) : w = u := by
      rw [htwo] at hw
      rcases List.mem_cons.1 hw with rfl | hw
      · rfl
      · rw [List.mem_singleton.1 hw, hv] at hturn
        cases hturn
    rw [hfirst hsof hsturn, hfirst htof htturn]

/-- In order, a rejected attempt records nothing. -/
theorem Orderly.not_records_of_rejected (h : Orderly steps) {s : Step c α ε} (hs : s ∈ steps) {form : Form}
    (hturn : s.turn = .admission attempt form) {r : Rejection ε}
    (hr : s.ended.result = .ok (.refused (.rejected r))) : ∀ t ∈ steps, ¬ t.Records attempt := by
  intro t ht hrecords
  obtain ⟨u, hu, ⟨form', huturn⟩, hw⟩ := h.admits_of_records ht hrecords
  rw [h.admission_unique hs hu hturn huturn, hw] at hr
  cases hr

end

/-- What a turn of an attempt is in an orderly run: it is admitted, and its operation starts; or it is
rejected, which leaves no trace, and that is the end of it; or, after it has been admitted, its outcome is
recorded, and it is answered with that. -/
theorem Orderly.turn_of_attempt (h : Orderly steps) (hc : c.world.Returns) {s : Step c α ε}
    (hs : s ∈ stepsOf attempt steps) :
    s.Admits attempt ∧ (Note.started ∈ s.notes ↔ s.turn = .admission attempt .running) ∨
    (∃ r, s.ended.result = .ok (.refused (.rejected r))) ∧ s.next = s.memory ∧ fired s.notes = [] ∧
      Note.started ∉ s.notes ∧ (∀ t ∈ steps, ¬ t.Records attempt) ∨
    ∃ outcome, s.turn = .recording attempt outcome ∧
      s.ended.result = .ok (Session.answerOf (outcome.mapError .failed)) ∧ Note.started ∉ s.notes ∧
      ∃ t ∈ steps, t.Admits attempt := by
  obtain ⟨hmem, hattempt⟩ := mem_stepsOf.1 hs
  cases hturn : s.turn with
  | admission asked form =>
    obtain rfl : asked = attempt := by rw [hturn] at hattempt; exact Option.some.inj hattempt
    rcases Step.of_admission hc hturn with ha | ⟨r, hr⟩
    · refine Or.inl ⟨ha, ?_⟩
      rw [← List.count_pos_iff, Step.started_of_admits hturn ha]
      cases form <;> simp
    · obtain ⟨hnext, hfired, hstarted⟩ := Step.of_rejected hr
      exact Or.inr (Or.inl ⟨⟨r, hr⟩, hnext, hfired, hstarted, h.not_records_of_rejected hmem hturn hr⟩)
  | recording asked outcome =>
    obtain rfl : asked = attempt := by rw [hturn] at hattempt; exact Option.some.inj hattempt
    exact Or.inr (Or.inr ⟨outcome, rfl, Step.of_recording hc hturn, Step.started_notMem_recording ⟨outcome, hturn⟩,
      h.admits_of_records hmem ⟨outcome, hturn⟩⟩)
  | kind | snapshot | forceOpen | forceClose =>
    rw [hturn] at hattempt
    cases hattempt

/-! ## Attempts in sessions -/

/-- What an attempt is answered whose operation has ended so. -/
def Outcome.answer : Outcome α ε → Answer α ε
  | ok a => .succeeded a
  | failure e => .refused (.failed e)
  | panic text => .panicked text

/-- The answer to an attempt tells what its operation did: how it ended if it ran, and else that it did
not run. -/
structure Faithful (ran : Prop) (outcome : Outcome α ε) (answer : Answer α ε) : Prop where
  succeeded : ∀ a, answer = .succeeded a ↔ ran ∧ outcome = .ok a
  failed : ∀ e, answer = .refused (.failed e) ↔ ran ∧ outcome = .failure e
  panicked : ∀ text, answer = .panicked text ↔ ran ∧ outcome = .panic text
  rejected : (∃ r, answer = .refused (.rejected r)) ↔ ¬ ran

theorem Faithful.of_ran {ran : Prop} (h : ran) (outcome : Outcome α ε) : Faithful ran outcome outcome.answer := by
  refine ⟨fun a => ?_, fun e => ?_, fun text => ?_, ?_⟩ <;> cases outcome <;> simp [Outcome.answer, h]

theorem Faithful.of_rejected {ran : Prop} (h : ¬ ran) (outcome : Outcome α ε) (r : Rejection ε) :
    Faithful ran outcome (.refused (.rejected r)) := by
  refine ⟨fun a => ?_, fun e => ?_, fun text => ?_, ?_⟩ <;> simp [h]

/-- An attempt with this outcome of its operation, made where it is admitted if `ran`: its own operation
runs once or never, its answer is faithful, and if it is rejected nothing has happened. -/
structure Report.Fair (session : Session α ε σ) (ran : Bool) (form : Form) (outcome : Outcome α ε)
    (report : Report α ε σ) : Prop where
  starts : report.notes.count .started = if ran = true ∧ form = .running then 1 else 0
  faithful : Faithful (ran = true) outcome report.answer
  atomic : ran = false →
    report.session.memory = session.memory ∧ fired report.timeline = [] ∧ report.nested = []

namespace Session

@[simp] theorem notes_preceded (before : List Note) (report : Report α ε σ) :
    (preceded before report).notes = before ++ report.notes := by
  cases report
  exact List.append_assoc _ _ _

theorem pending?_settle (session : Session α ε σ) (outcome : Outcome α ε) (id : String) :
    (session.settle c outcome).session.pending? id = session.pending? id := by
  cases outcome <;> rfl

/-- An operation that has ended is answered for, and nothing is started any more. -/
theorem settle_answers (hc : c.world.Returns) (session : Session α ε σ) (outcome : Outcome α ε) :
    (session.settle c outcome).answer = outcome.answer ∧ Note.started ∉ (session.settle c outcome).notes := by
  have hrecord (outcome : Except ε α) :
      (session.ask (c.record outcome) answerOf).answer = answerOf (outcome.mapError .failed) ∧
        Note.started ∉ (session.ask (c.record outcome) answerOf).notes := by
    have hnotes : (session.ask (c.record outcome) answerOf).notes =
        (⟨.recording 0 outcome, session.memory, session.world⟩ : Step c α ε).notes := by
      have hcall : Step.ended (⟨.recording 0 outcome, session.memory, session.world⟩ : Step c α ε) = _ :=
        Call.bind_pure_apply (c.record outcome) answerOf session.memory session.world
      rw [Step.notes, hcall]
      exact List.append_nil _
    refine ⟨?_, ?_⟩
    · unfold ask
      rw [call_eq]
      dsimp only
      rw [c.record_returns hc]
      rfl
    · rw [hnotes]
      exact Step.started_notMem_recording ⟨outcome, rfl⟩
  cases outcome with
  | ok a => exact hrecord (.ok a)
  | failure e => exact hrecord (.error e)
  | panic text => exact ⟨rfl, List.not_mem_nil⟩

/-- An attempt that is not admitted is rejected, and nothing has happened. -/
theorem admission_of_not_granted (hc : c.world.Returns) {session : Session α ε σ} (h : session.granted c = false) :
    let asked := c.admission session.memory session.world
    ∃ r, asked.result = .ok (some r) ∧ asked.memory = session.memory ∧ fired asked.notes = [] := by
  intro asked
  have hne : asked.result ≠ .ok none := (Bool.eq_false_iff.1 h) ∘ granted_iff.2
  obtain ⟨result, hcall⟩ := Turn.call_admission_of_ne (α := α) 0 .constant hne
  let s : Step c α ε := ⟨.admission 0 .constant, session.memory, session.world⟩
  have hended : s.ended = _ := hcall
  rcases Step.of_admission hc (s := s) rfl with hadmits | ⟨r, hr⟩
  · exact absurd (Step.admission_of_admits rfl hadmits) hne
  · obtain ⟨hnext, hfired, -⟩ := Step.of_rejected hr
    rw [Step.next, hended] at hnext
    rw [Step.notes, hended] at hfired
    cases hreply : asked.result with
    | error text =>
      have hpanic : s.ended.result = _ := congrArg Ended.result (Call.bind_panic hreply)
      rw [hpanic] at hr
      cases hr
    | ok reply =>
      cases reply with
      | none => exact absurd hreply hne
      | some r => exact ⟨r, rfl, hnext, hfired⟩

/-- An attempt that is not admitted is fair, whatever its operation would have done. -/
theorem fair_of_not_granted (hc : c.world.Returns) {session : Session α ε σ} (h : session.granted c = false)
    {callOff : Session α ε σ → Session α ε σ} (hcall : ∀ t, (callOff t).memory = t.memory)
    (goOn : Session α ε σ → Report α ε σ) (form : Form) (outcome : Outcome α ε) :
    Report.Fair session false form outcome (session.request c callOff goOn) := by
  obtain ⟨r, hr, hmemory, hfired⟩ := admission_of_not_granted hc h
  have hrequest : session.request c callOff goOn = (callOff (session.having (c.admission session.memory
      session.world))).report (.refused (.rejected r)) (c.admission session.memory session.world).notes := by
    rw [request, hr]
  rw [hrequest]
  refine ⟨?_, .of_rejected Bool.false_ne_true _ r, fun _ => ⟨(hcall _).trans hmemory, ?_, rfl⟩⟩
  · show List.count Note.started (_ ++ []) = 0
    rw [List.append_nil, Circuit.count_started_admission]
  · rw [timeline_report]
    exact hfired

/-- An attempt that asks for admission is fair if it is fair from there on. -/
theorem fair_request (hc : c.world.Returns) {session : Session α ε σ} {callOff : Session α ε σ → Session α ε σ}
    {goOn : Session α ε σ → Report α ε σ} {form : Form} {outcome : Outcome α ε}
    (hcall : ∀ t, (callOff t).memory = t.memory)
    (hgo : ∀ t, (goOn t).answer = outcome.answer ∧
      (goOn t).notes.count .started = if form = .running then 1 else 0) :
    Report.Fair session (session.granted c) form outcome (session.request c callOff goOn) := by
  cases hg : session.granted c with
  | false => exact fair_of_not_granted hc hg hcall goOn form outcome
  | true =>
    have hrequest : session.request c callOff goOn = preceded (c.admission session.memory session.world).notes
        (goOn (session.having (c.admission session.memory session.world))) := by
      rw [request, granted_iff.1 hg]
    obtain ⟨hanswer, hstarts⟩ := hgo (session.having (c.admission session.memory session.world))
    rw [hrequest]
    refine ⟨?_, ?_, fun h => by cases h⟩
    · rw [notes_preceded, List.count_append, Circuit.count_started_admission, Nat.zero_add, hstarts]
      exact if_congr (and_iff_right rfl).symm rfl rfl
    · rw [answer_preceded, hanswer]
      exact .of_ran rfl outcome

/-- Whatever calls are made while the operation runs, the attempt is fair. -/
theorem fair_attempt (hc : c.world.Returns) (session : Session α ε σ) (form : Form) (outcome : Outcome α ε)
    (during : List (Action α ε)) :
    Report.Fair session (session.granted c) form outcome (session.perform c move (.attempt form outcome during)) := by
  cases form with
  | constant =>
    rw [perform_constant]
    refine fair_request hc (fun _ => rfl) fun t => ?_
    obtain ⟨hanswer, hstarted⟩ := t.settle_answers hc outcome
    exact ⟨hanswer, List.count_eq_zero.2 hstarted⟩
  | running =>
    rw [perform_running]
    refine fair_request hc (fun _ => rfl) fun t => ?_
    obtain ⟨hanswer, hstarted⟩ := (performAll c move during t).2.settle_answers hc outcome
    refine ⟨hanswer, ?_⟩
    show List.count Note.started (.started :: ((performAll c move during t).2.settle c outcome).notes) = 1
    rw [List.count_cons_self, List.count_eq_zero.2 hstarted]

/-! ### Futures -/

theorem pending?_request (session : Session α ε σ) {callOff : Session α ε σ → Session α ε σ}
    {goOn : Session α ε σ → Report α ε σ} {id : String} (hcall : ∀ t, (callOff t).pending? id = none)
    (hgo : ∀ t, (goOn t).session.pending? id = none) :
    (session.request c callOff goOn).session.pending? id = none := by
  unfold request
  dsimp only
  split
  · exact hcall _
  · exact hcall _
  · rw [session_preceded]
    exact hgo _

/-- A future whose operation has ended by the time it is polled first is an attempt like any other. -/
theorem fair_poll_resolved (hc : c.world.Returns) {session : Session α ε σ} {id : String} {outcome : Outcome α ε}
    (h : session.pending? id = some ⟨false, some outcome⟩) :
    Report.Fair session (session.granted c) .running outcome (session.poll c id) ∧
      (session.poll c id).session.pending? id = none := by
  rw [poll_prepared h rfl]
  refine ⟨fair_request hc (fun _ => rfl) fun t => ?_, session.pending?_request ?_ fun t => ?_⟩
  · obtain ⟨hanswer, hstarted⟩ := (t.without id).settle_answers hc outcome
    rw [answer_preceded, notes_preceded]
    refine ⟨hanswer, ?_⟩
    show List.count Note.started (.started :: ((t.without id).settle c outcome).notes) = 1
    rw [List.count_cons_self, List.count_eq_zero.2 hstarted]
  · exact fun t => t.pending?_without_self id
  · rw [session_preceded]
    exact ((t.without id).pending?_settle outcome id).trans (t.pending?_without_self id)

/-- A future that is not admitted when it is polled first is gone. -/
theorem fair_poll_not_granted (hc : c.world.Returns) {session : Session α ε σ} {id : String}
    (h : session.pending? id = some ⟨false, none⟩) (hg : session.granted c = false) (outcome : Outcome α ε) :
    Report.Fair session false .running outcome (session.poll c id) ∧
      (session.poll c id).session.pending? id = none := by
  obtain ⟨answer, -, hrequest⟩ := request_of_not_granted hg
  rw [poll_prepared h rfl]
  refine ⟨fair_of_not_granted hc hg ?_ _ _ _, ?_⟩
  · exact fun _ => rfl
  · rw [hrequest session _ _ rfl rfl]
    exact pending?_without_self _ id

/-- A future that is admitted has its operation started then and waits. Whatever is done meanwhile, once the
operation has ended the future is answered for it, and nothing is started any more. -/
theorem future_answers (hc : c.world.Returns) {session : Session α ε σ} {id : String}
    (h : session.pending? id = some ⟨false, none⟩) (hg : session.granted c = true) {mid : List (Action α ε)}
    (hmid : id ∉ Action.idsAll mid) (outcome : Outcome α ε) :
    let polled := session.poll c id
    let ended := performAll c move [.resolve id outcome, .poll id] (performAll c move mid polled.session).2
    polled.answer = .waiting ∧ polled.notes.count .started = 1 ∧
      ended.1.map Report.answer = [.resolved, outcome.answer] ∧ Note.started ∉ Report.timelines ended.1 ∧
      ended.2.pending? id = none := by
  intro polled ended
  let asked := session.having (c.admission session.memory session.world)
  let waiting := asked.withCall id ⟨true, none⟩
  have hpolled : polled = .mk .waiting ((c.admission session.memory session.world).notes ++ [.started]) [] []
      waiting := poll_waiting h (granted_iff.1 hg)
  -- whatever is done meanwhile, the future is still there
  let between := performAll c move mid waiting
  have halike : waiting.Alike Eq (Waiting id ⟨true, none⟩) (asked.without id) :=
    Alike.waiting ⟨⟨rfl, rfl⟩, rfl, fun _ => rfl⟩ (asked.less_without id) ⟨true, none⟩
  have hstill : between.2.pending? id = some ⟨true, none⟩ := (halike.performAll_waiting (fun _ => rfl) mid hmid).2
  let resolved := between.2.withCall id ⟨true, some outcome⟩
  let settled := (resolved.without id).settle c outcome
  have hended : ended = ([resolved.report .resolved [], settled], settled.session) := by
    show performAll c move _ (performAll c move mid polled.session).2 = _
    rw [hpolled]
    exact performAll_resolve hstill outcome
  obtain ⟨hanswer, hstarted⟩ := settle_answers hc (resolved.without id) outcome
  rw [hended, hpolled]
  refine ⟨rfl, ?_, ?_, ?_, ?_⟩
  · show List.count Note.started ((_ ++ [.started]) ++ []) = 1
    rw [List.append_nil, List.count_append, Circuit.count_started_admission]
    rfl
  · exact congrArg (fun answer => [Answer.resolved, answer]) hanswer
  · simpa only [Report.timelines, timeline_report, timeline_settle, List.nil_append, List.append_nil, settled]
      using hstarted
  · exact (pending?_settle _ outcome id).trans (pending?_without_self _ id)

end Session

/-! ## Attempts are faithful -/

/-- Attempts are faithful, and rejections leave no trace. Let no listener panic. An attempt made in whatever
session, so on a circuit breaker in whatever state, returns the value of its operation exactly if that ran and
returned it, its failure exactly if it ran and failed so, and its panic exactly if it ran and panicked; and
it is rejected exactly if the operation did not run. It runs once then, or is a value that need not run;
else it does not run, and neither the state with its times, the count of failures nor the failure observed
last are touched, and no listener runs. This holds whatever calls are made on the circuit breaker while the
operation runs. So it is with futures: if one is admitted when it is polled first, its operation is started
then and not again, it waits when it is polled before the operation has ended, and whatever has been done
meanwhile, the poll after that answers with the outcome. And so it is in every orderly run, where other turns
come between the two turns of an attempt: the operation starts at most once, a rejected attempt records
nothing, and what is recorded is the answer, whatever the state is then. -/
theorem attempts_faithful (c : Circuit σ) (move : ClockMove → σ → σ) (hc : c.world.Returns) :
    (∀ (session : Session α ε σ) (form : Form) (outcome : Outcome α ε) (during : List (Action α ε)),
      Report.Fair session (session.granted c) form outcome
        (session.perform c move (.attempt form outcome during))) ∧
    (∀ (session : Session α ε σ) (id : String),
      let polled := session.poll c id
      (∀ outcome, session.pending? id = some ⟨false, some outcome⟩ →
        Report.Fair session (session.granted c) .running outcome polled ∧ polled.session.pending? id = none) ∧
      (session.pending? id = some ⟨false, none⟩ → session.granted c = false → ∀ outcome : Outcome α ε,
        Report.Fair session false .running outcome polled ∧ polled.session.pending? id = none) ∧
      (session.pending? id = some ⟨false, none⟩ → session.granted c = true →
        ∀ (mid : List (Action α ε)) (outcome : Outcome α ε), id ∉ Action.idsAll mid →
        let between := Session.performAll c move mid polled.session
        let ended := Session.performAll c move [.resolve id outcome, .poll id] between.2
        polled.answer = .waiting ∧ polled.notes.count .started = 1 ∧
          ended.1.map Report.answer = [.resolved, outcome.answer] ∧ Note.started ∉ Report.timelines ended.1 ∧
          ended.2.pending? id = none) ∧
      (session.pending? id = some ⟨true, none⟩ →
        polled = (session.withCall id ⟨true, none⟩).report .waiting [])) ∧
    ∀ (memory : Memory ε) (events : List (Turn α ε × σ)),
      let steps := c.steps memory events
      Orderly steps → ∀ attempt,
        ((stepsOf attempt steps).flatMap Step.notes).count .started ≤ 1 ∧
        ∀ s ∈ stepsOf attempt steps,
          s.Admits attempt ∧ (Note.started ∈ s.notes ↔ s.turn = .admission attempt .running) ∨
          (∃ r, s.ended.result = .ok (.refused (.rejected r))) ∧ s.next = s.memory ∧ fired s.notes = [] ∧
            Note.started ∉ s.notes ∧ (∀ t ∈ steps, ¬ t.Records attempt) ∨
          ∃ outcome, s.turn = .recording attempt outcome ∧
            s.ended.result = .ok (Session.answerOf (outcome.mapError .failed)) ∧ Note.started ∉ s.notes ∧
            ∃ t ∈ steps, t.Admits attempt := by
  refine ⟨fun session form outcome during => session.fair_attempt hc form outcome during,
    fun session id => ⟨fun outcome hp => ?_, fun hp hg outcome => ?_, fun hp hg mid outcome hmid => ?_, fun hp => ?_⟩,
    fun memory events horder attempt => ⟨?_, fun s hs => ?_⟩⟩
  · exact Session.fair_poll_resolved hc hp
  · exact Session.fair_poll_not_granted hc hp hg outcome
  · exact Session.future_answers hc hp hg hmid outcome
  · exact Session.poll_admitted hp rfl
  · exact started_le_one_of_orderly horder attempt
  · exact horder.turn_of_attempt hc hs

/-- The circuit is opened while an operation runs, and a call of that is rejected. The operation itself
returns its value all the same. -/
theorem attempts_faithful_fragile :
    let session : Session Unit String Bench := .start (Bench.reading 0)
    let during : List (Action Unit String) := [.forceOpen, .attempt .running (.failure "down") []]
    let report := session.perform Bench.fragile Bench.move (.attempt .running (.ok ()) during)
    let again := report.session.perform Bench.fragile Bench.move (.attempt .running (.failure "down") [])
    Bench.fragile.world.Returns ∧ report.answer = .succeeded () ∧ report.notes.count .started = 1 ∧
      Report.nested report ≠ [] ∧ (∃ r, again.answer = .refused (.rejected r)) ∧
      again.session.memory = report.session.memory ∧ report.session.memory.state.kind = .opened := by
  intro session during report again
  have hc : Bench.fragile.world.Returns := by
    intro kind world
    cases kind <;> rfl
  obtain ⟨hattempts, -, -⟩ := attempts_faithful (α := Unit) (ε := String) Bench.fragile Bench.move hc
  have hfair := hattempts session .running (.ok ()) during
  have hagain := hattempts report.session .running (.failure "down") []
  have hgranted : session.granted Bench.fragile = true := by decide
  have hrefused : report.session.granted Bench.fragile = false := by decide
  rw [hgranted] at hfair
  rw [hrefused] at hagain
  exact ⟨hc, (hfair.faithful.succeeded ()).2 ⟨rfl, rfl⟩, hfair.starts, nofun,
    hagain.faithful.rejected.2 Bool.false_ne_true, (hagain.atomic rfl).1, by decide⟩

end CircuitBreaker
