/-
Attempts as futures. An attempt whose operation makes calls of its own does the same as a future that is
polled, left waiting while the same calls are made, and polled once more; and if the attempts among these
calls are taken for futures as well, down to the innermost, then no call is nested in another any more.
-/
import CircuitBreaker.Proofs.SessionsAlike

namespace CircuitBreaker

variable {α ε σ : Type} {c : Circuit σ} {move : ClockMove → σ → σ}

/-! ## Names of futures -/

/-- The futures of the attempts in which a call is nested have names, numbered from the outermost. In the
first of two sessions the first `depth` of them wait. Under other names the same waits in both sessions. -/
def Nested (name : Nat → String) (depth : Nat) (other : String) (p p' : Option (Pending α ε)) : Prop :=
  (∀ i < depth, other = name i → p = some ⟨true, none⟩) ∧ ((∀ i, other ≠ name i) → p = p')

theorem nested_of_ne {name : Nat → String} {other : String} (depth : Nat) (h : ∀ i, other ≠ name i) :
    Nested (α := α) (ε := ε) name depth other = Eq := by
  funext p p'
  refine propext ⟨fun hp => hp.2 h, fun hp => ⟨fun i _ ho => absurd ho (h i), fun _ => hp⟩⟩

section

variable {name : Nat → String} {depth : Nat} {s s' t : Session α ε σ}

/-- What waits under the next name does not matter yet. -/
theorem Session.Alike.besides (h : s.Alike Eq (Nested name depth) t) (hname : ∀ i < depth, name i ≠ name depth)
    (hmemory : s'.memory = s.memory) (hworld : s'.world = s.world)
    (hothers : ∀ other, other ≠ name depth → s'.pending? other = s.pending? other) :
    s'.Alike Eq (Nested name depth) t := by
  refine ⟨by rw [hmemory]; exact h.memory, by rw [hworld]; exact h.world, fun other => ?_⟩
  obtain ⟨hwait, hsame⟩ := h.calls other
  refine ⟨fun i hi ho => ?_, fun ho => ?_⟩
  · rw [hothers other (by rw [ho]; exact hname i hi)]
    exact hwait i hi ho
  · rw [hothers other (ho depth)]
    exact hsame ho

/-- In the operation of one more attempt its future waits. -/
theorem Session.Alike.deeper (h : s.Alike Eq (Nested name depth) t) (hname : ∀ i < depth, name i ≠ name depth) :
    (s.withCall (name depth) ⟨true, none⟩).Alike Eq (Nested name (depth + 1)) t := by
  have haside : (s.withCall (name depth) ⟨true, none⟩).Alike Eq (Nested name depth) t :=
    h.besides hname rfl rfl fun other ho => s.pending?_withCall_of_ne _ ho
  obtain ⟨hmemory, hworld, hcalls⟩ := haside
  refine ⟨hmemory, hworld, fun other => ⟨fun i hi ho => ?_, (hcalls other).2⟩⟩
  rcases Nat.lt_succ_iff_lt_or_eq.1 hi with hi | rfl
  · exact (hcalls other).1 i hi ho
  · rw [ho]
    exact s.pending?_withCall_self _ _

theorem Session.Alike.waits (h : s.Alike Eq (Nested name (depth + 1)) t) :
    s.pending? (name depth) = some ⟨true, none⟩ :=
  (h.calls (name depth)).1 depth (Nat.lt_succ_self depth) rfl

theorem Session.Alike.shallower (h : s.Alike Eq (Nested name (depth + 1)) t) :
    s.Alike Eq (Nested name depth) t :=
  ⟨h.memory, h.world, fun other =>
    ⟨fun i hi ho => (h.calls other).1 i (Nat.lt_succ_of_lt hi) ho, (h.calls other).2⟩⟩

end

/-! ## One attempt as a future -/

/-- An attempt would be admitted. -/
def Session.granted (c : Circuit σ) (session : Session α ε σ) : Bool :=
  match (c.admission session.memory session.world).result with
  | .ok none => true
  | _ => false

/-- An attempt as a future, under a name: it is prepared and polled, and if it waits then, the calls of its
operation are made, and it is resolved and polled once more. -/
def asFuture (id : String) (outcome : Outcome α ε) (waits : Bool) (during : List (Action α ε)) :
    List (Action α ε) :=
  .prepare id :: .poll id :: if waits then during ++ [.resolve id outcome, .poll id] else []

theorem Session.granted_iff {session : Session α ε σ} :
    session.granted c = true ↔ (c.admission session.memory session.world).result = .ok none := by
  unfold granted
  split <;> simp_all

/-- An attempt that is not admitted is called off with the same answer, whoever made it. -/
theorem Session.request_of_not_granted {session : Session α ε σ} (h : session.granted c = false) :
    ∃ answer : Answer α ε, answer ≠ .waiting ∧ ∀ (s : Session α ε σ) callOff goOn,
      s.memory = session.memory → s.world = session.world →
      s.request c callOff goOn =
        (callOff (s.having (c.admission session.memory session.world))).report answer
          (c.admission session.memory session.world).notes := by
  have hne := (Bool.eq_false_iff.1 h) ∘ Session.granted_iff.2
  cases hr : (c.admission session.memory session.world).result with
  | error text =>
    refine ⟨.panicked text, fun h => (by cases h), fun s callOff goOn hm hw => ?_⟩
    rw [request, hm, hw, hr]
  | ok reply =>
    cases reply with
    | none => exact absurd hr hne
    | some r =>
      refine ⟨.refused (.rejected r), fun h => (by cases h), fun s callOff goOn hm hw => ?_⟩
      rw [request, hm, hw, hr]

/-- Once it waits, a future is resolved and polled, and the outcome recorded. -/
theorem Session.performAll_resolve {session : Session α ε σ} {id : String}
    (h : session.pending? id = some ⟨true, none⟩) (outcome : Outcome α ε) :
    let resolved := session.withCall id ⟨true, some outcome⟩
    let settled := (resolved.without id).settle c outcome
    performAll c move [.resolve id outcome, .poll id] session =
      ([resolved.report .resolved [], settled], settled.session) := by
  intro resolved settled
  have hresolve : perform c move (.resolve id outcome) session = resolved.report .resolved [] :=
    perform_resolve h outcome
  have hpoll : perform c move (.poll id) resolved = settled :=
    poll_admitted (session.pending?_withCall_self id _) rfl
  rw [performAll, hresolve]
  show (_ :: (perform c move (.poll id) resolved :: []), (perform c move (.poll id) resolved).session) = _
  rw [hpoll]

/-- First a future is prepared and polled. -/
theorem Session.performAll_prepare_poll (session : Session α ε σ) (id : String) (rest : List (Action α ε)) :
    let prepared := session.withCall id ⟨false, none⟩
    let polled := prepared.poll c id
    performAll c move (.prepare id :: .poll id :: rest) session =
      (prepared.report (.prepared (session.pending? id).isSome) [] :: polled ::
        (performAll c move rest polled.session).1, (performAll c move rest polled.session).2) := rfl

/-- A future that is admitted waits while the calls of its operation are made, and is resolved then. -/
theorem Session.performAll_asFuture {session : Session α ε σ} {asked : Ended ε σ (Option (Rejection ε))}
    (ha : c.admission session.memory session.world = asked) (hr : asked.result = .ok none) (id : String)
    (outcome : Outcome α ε) (during : List (Action α ε)) :
    let prepared := session.withCall id ⟨false, none⟩
    let waiting := (prepared.having asked).withCall id ⟨true, none⟩
    let between := performAll c move during waiting
    let resolved := between.2.withCall id ⟨true, some outcome⟩
    let settled := (resolved.without id).settle c outcome
    between.2.pending? id = some ⟨true, none⟩ →
      performAll c move (asFuture id outcome true during) session =
        (prepared.report (.prepared (session.pending? id).isSome) [] ::
          .mk .waiting (asked.notes ++ [.started]) [] [] waiting ::
          (between.1 ++ [resolved.report .resolved [], settled]), settled.session) := by
  subst ha
  intro prepared waiting between resolved settled hstill
  have hpoll : prepared.poll c id =
      .mk .waiting ((c.admission session.memory session.world).notes ++ [.started]) [] [] waiting :=
    poll_waiting (session.pending?_withCall_self _ _) hr
  show performAll c move (.prepare id :: .poll id :: (during ++ [.resolve id outcome, .poll id])) session = _
  rw [performAll_prepare_poll, hpoll, performAll_append]
  show ((_ :: _ :: (between.1 ++ (performAll c move _ between.2).1) : List (Report α ε σ)),
    (performAll c move _ between.2).2) = _
  rw [performAll_resolve hstill]

section

variable {name : Nat → String} {depth : Nat} {s t : Session α ε σ}

/-- A future is prepared, and asks for admission. -/
theorem Session.Alike.prepared (h : s.Alike Eq (Nested name depth) t) (hname : ∀ i < depth, name i ≠ name depth) :
    ((s.withCall (name depth) ⟨false, none⟩).having (c.admission t.memory t.world)).Alike Eq (Nested name depth)
      (t.having (c.admission t.memory t.world)) := by
  have haside : (s.withCall (name depth) ⟨false, none⟩).Alike Eq (Nested name depth) t :=
    h.besides hname rfl rfl fun other ho => s.pending?_withCall_of_ne _ ho
  exact ⟨⟨rfl, rfl⟩, rfl, haside.calls⟩

/-- A future that is not admitted does the same as the attempt. -/
theorem Session.Alike.future_refused (h : s.Alike Eq (Nested name depth) t)
    (hname : ∀ i < depth, name i ≠ name depth) (hg : t.granted c = false) (outcome : Outcome α ε)
    (during during' : List (Action α ε)) :
    let reports := Session.performAll c move (asFuture (name depth) outcome false during') s
    let report := Session.perform c move (.attempt .running outcome during) t
    Report.AllAlike Eq (Nested name depth) reports ([report], report.session) ∧
      reports.1.getLast?.map Report.answer = some report.answer := by
  intro reports report
  let asked := c.admission t.memory t.world
  let prepared := s.withCall (name depth) ⟨false, none⟩
  let gone := (prepared.having asked).without (name depth)
  have hgone : gone.Alike Eq (Nested name depth) (t.having asked) :=
    (h.prepared hname).besides hname rfl rfl fun other ho => Session.pending?_without_of_ne _ ho
  obtain ⟨answer, -, hrequest⟩ := Session.request_of_not_granted hg
  have hpoll : prepared.poll c (name depth) = gone.report answer asked.notes := by
    have hwaits : prepared.pending? (name depth) = some ⟨false, none⟩ := s.pending?_withCall_self _ _
    rw [Session.poll_prepared hwaits rfl, hrequest prepared _ _ h.memory.eq h.world]
  have hreport : report = (t.having asked).report answer asked.notes := by
    show Session.perform c move (.attempt .running outcome during) t = _
    rw [Session.perform_running, hrequest _ _ _ rfl rfl]
    rfl
  have hreports : reports = ([prepared.report (.prepared (s.pending? (name depth)).isSome) [],
      gone.report answer asked.notes], gone) := by
    show Session.performAll c move (.prepare (name depth) :: .poll (name depth) :: []) s = _
    rw [Session.performAll_prepare_poll, hpoll]
    rfl
  have hlast := hgone.report (.same answer) asked.notes
  rw [hreports, hreport]
  refine ⟨⟨?_, ?_, hgone⟩, rfl⟩
  · simp only [Report.timelines, Session.timeline_report, List.nil_append]
  · simp only [Report.toldAll, List.append_nil]
    exact hlast.told

/-- A future that is admitted does the same as the attempt, if the calls of its operation come to the same
as those made while the future waits. -/
theorem Session.Alike.future_granted (h : s.Alike Eq (Nested name depth) t)
    (hname : ∀ i < depth, name i ≠ name depth) (hg : t.granted c = true) (outcome : Outcome α ε)
    {during during' : List (Action α ε)}
    (hbody : ∀ a : Session α ε σ,
      a.Alike Eq (Nested name (depth + 1)) (t.having (c.admission t.memory t.world)) →
      Report.AllAlike Eq (Nested name (depth + 1)) (Session.performAll c move during' a)
        (Session.performAll c move during (t.having (c.admission t.memory t.world)))) :
    let reports := Session.performAll c move (asFuture (name depth) outcome true during') s
    let report := Session.perform c move (.attempt .running outcome during) t
    Report.AllAlike Eq (Nested name depth) reports ([report], report.session) ∧
      reports.1.getLast?.map Report.answer = some report.answer := by
  intro reports report
  let asked := c.admission t.memory t.world
  have hr : asked.result = .ok none := Session.granted_iff.1 hg
  have hasked : c.admission s.memory s.world = asked := by rw [h.memory.eq, h.world]
  let prepared := s.withCall (name depth) ⟨false, none⟩
  let waiting := (prepared.having asked).withCall (name depth) ⟨true, none⟩
  -- the calls of the operation are made while the future waits
  let between := Session.performAll c move during' waiting
  let between' := Session.performAll c move during (t.having asked)
  have hbetween : Report.AllAlike Eq (Nested name (depth + 1)) between between' :=
    hbody waiting ((h.prepared hname).deeper hname)
  -- the outcome is recorded when the future is gone
  let resolved := between.2.withCall (name depth) ⟨true, some outcome⟩
  have hgone : (resolved.without (name depth)).Alike Eq (Nested name depth) between'.2 :=
    hbetween.session.shallower.besides hname rfl rfl
      (between.2.less_without_withCall (name depth) ⟨true, some outcome⟩).others
  let settled := (resolved.without (name depth)).settle c outcome
  let settled' := between'.2.settle c outcome
  have hend : settled.Alike Eq (Nested name depth) settled' := hgone.settle (fun _ => rfl) outcome
  have hreports : reports = (prepared.report (.prepared (s.pending? (name depth)).isSome) [] ::
      .mk .waiting (asked.notes ++ [.started]) [] [] waiting ::
      (between.1 ++ [resolved.report .resolved [], settled]), settled.session) :=
    Session.performAll_asFuture hasked hr (name depth) outcome during' hbetween.session.waits
  have hreport : report = .mk settled'.answer (asked.notes ++ [.started]) between'.1 settled'.notes
      settled'.session := Session.perform_running_of_admitted hr outcome during
  rw [hreports, hreport]
  refine ⟨⟨?_, ?_, hend.session⟩, ?_⟩
  · have hnotes : settled.timeline = settled'.notes := hend.timeline.trans (Session.timeline_settle c _ outcome)
    simp only [Report.timelines_append, Report.timelines, Report.timeline, Session.timeline_report,
      hbetween.timeline, hnotes, List.append_nil, List.nil_append, List.append_assoc]
  · have htold := hend.told
    rw [Session.told_settle c between'.2 outcome] at htold
    simp only [Report.toldAll_append, Report.toldAll, Report.told, Session.report, Answer.final,
      List.append_nil, List.nil_append, Bool.false_eq_true, if_false]
    exact List.rel_append hbetween.told htold
  · have hlast : settled.answer = settled'.answer := hend.answer.eq
    rw [← List.cons_append, ← List.cons_append, List.getLast?_append]
    exact congrArg some hlast

theorem Session.Alike.future (h : s.Alike Eq (Nested name depth) t) (hname : ∀ i < depth, name i ≠ name depth)
    (outcome : Outcome α ε) {during during' : List (Action α ε)}
    (hbody : ∀ a : Session α ε σ,
      a.Alike Eq (Nested name (depth + 1)) (t.having (c.admission t.memory t.world)) →
      Report.AllAlike Eq (Nested name (depth + 1)) (Session.performAll c move during' a)
        (Session.performAll c move during (t.having (c.admission t.memory t.world)))) :
    let reports := Session.performAll c move (asFuture (name depth) outcome (t.granted c) during') s
    let report := Session.perform c move (.attempt .running outcome during) t
    Report.AllAlike Eq (Nested name depth) reports ([report], report.session) ∧
      reports.1.getLast?.map Report.answer = some report.answer := by
  cases hg : t.granted c with
  | false => exact h.future_refused hname hg outcome during during'
  | true => exact h.future_granted hname hg outcome hbody

end

/-! ## Down to the innermost -/

/-- Rows of actions one after another, each for a session of its own. -/
def Action.again (row : Session α ε σ → List (Action α ε)) (pass : Session α ε σ → Session α ε σ) :
    Nat → Session α ε σ → List (Action α ε)
  | 0, _ => []
  | times + 1, session => row session ++ again row pass times (pass session)

mutual

/-- The action without calls nested in others: attempts are taken for futures, those in the operation of
another under the next name, and repetitions are written out. The session is the one before the action. -/
def Action.flat (c : Circuit σ) (move : ClockMove → σ → σ) (name : Nat → String) (depth : Nat) :
    Action α ε → Session α ε σ → List (Action α ε)
  | .attempt .running outcome during, session =>
    asFuture (name depth) outcome (session.granted c)
      (flatAll c move name (depth + 1) during (session.having (c.admission session.memory session.world)))
  | .repeated times actions, session =>
    again (flatAll c move name depth actions) (fun session => (session.performAll c move actions).2) times session
  | action, _ => [action]

/-- The actions without calls nested in others. -/
def Action.flatAll (c : Circuit σ) (move : ClockMove → σ → σ) (name : Nat → String) (depth : Nat) :
    List (Action α ε) → Session α ε σ → List (Action α ε)
  | [], _ => []
  | action :: actions, session =>
    action.flat c move name depth session ++ flatAll c move name depth actions (session.perform c move action).session

end

section

variable {name : Nat → String} {depth : Nat}

theorem Session.Alike.alone {s t : Session α ε σ} (h : s.Alike Eq (Nested name depth) t) (action : Action α ε)
    (hids : ∀ i, name i ∉ action.ids) :
    Report.AllAlike Eq (Nested name depth) (Session.performAll c move [action] s)
      ([Session.perform c move action t], (Session.perform c move action t).session) := by
  refine h.performAll (fun _ => rfl) [action] fun other ho => nested_of_ne depth ?_
  rintro i rfl
  exact hids i (by simpa [Action.idsAll] using ho)

/-- Whatever is done once in a pass over the flat row and over the nested one is done alike in all passes. -/
theorem Session.Alike.again {row : Session α ε σ → List (Action α ε)}
    {pass : Session α ε σ → List (Report α ε σ) × Session α ε σ}
    (hrow : ∀ s t : Session α ε σ, s.Alike Eq (Nested name depth) t →
      Report.AllAlike Eq (Nested name depth) (Session.performAll c move (row t) s) (pass t)) :
    ∀ (times : Nat) {s t : Session α ε σ}, s.Alike Eq (Nested name depth) t →
      Report.AllAlike Eq (Nested name depth)
        (Session.performAll c move (Action.again row (fun t => (pass t).2) times t) s) (Session.passes pass times t)
  | 0, _, _, h => .nil h
  | times + 1, s, t, h => by
    have hfirst := hrow s t h
    have hrest := Session.Alike.again hrow times hfirst.session
    rw [Action.again, Session.performAll_append]
    exact hfirst.append hrest

mutual

theorem alike_flat (hname : ∀ i j, name i = name j → i = j) : ∀ (action : Action α ε) {depth : Nat}
    {s t : Session α ε σ}, (∀ i, name i ∉ action.ids) → s.Alike Eq (Nested name depth) t →
    Report.AllAlike Eq (Nested name depth)
      (Session.performAll c move (action.flat c move name depth t) s)
      ([Session.perform c move action t], (Session.perform c move action t).session)
  | .attempt .running outcome during, depth, s, t, hids, h => by
    rw [Action.flat]
    have hfuture := h.future (fun i hi he => absurd (hname i depth he) (Nat.ne_of_lt hi)) outcome
      fun a ha => alike_flatAll hname during hids ha
    exact hfuture.1
  | .repeated times actions, depth, s, t, hids, h => by
    have hall := h.again (fun s t ht => alike_flatAll hname actions hids ht) times
    rw [Action.flat, Session.perform]
    refine ⟨?_, ?_, hall.session⟩
    · simpa [Report.timelines, Report.timeline] using hall.timeline
    · simpa [Report.toldAll, Report.told, Answer.final] using hall.told
  | .attempt .constant _ _, _, _, _, hids, h | .kind, _, _, _, hids, h | .isKind _, _, _, _, hids, h
  | .forceOpen, _, _, _, hids, h | .forceClose, _, _, _, hids, h | .snapshot, _, _, _, hids, h
  | .look, _, _, _, hids, h | .move _, _, _, _, hids, h | .prepare _, _, _, _, hids, h
  | .poll _, _, _, _, hids, h | .resolve _ _, _, _, _, hids, h | .abandon _, _, _, _, hids, h => h.alone _ hids

theorem alike_flatAll (hname : ∀ i j, name i = name j → i = j) : ∀ (actions : List (Action α ε)) {depth : Nat}
    {s t : Session α ε σ}, (∀ i, name i ∉ Action.idsAll actions) → s.Alike Eq (Nested name depth) t →
    Report.AllAlike Eq (Nested name depth)
      (Session.performAll c move (Action.flatAll c move name depth actions t) s)
      (Session.performAll c move actions t)
  | [], _, _, _, _, h => .nil h
  | action :: actions, depth, s, t, hids, h => by
    have hfirst := alike_flat hname action (fun i hi => hids i (List.mem_append_left _ hi)) h
    have hrest := alike_flatAll hname actions (fun i hi => hids i (List.mem_append_right _ hi)) hfirst.session
    rw [Action.flatAll, Session.performAll_append]
    exact hfirst.append hrest

end

/-! ### Nothing nested -/

/-- No action is nested in this one. -/
def Action.plain : Action α ε → Bool
  | .attempt .running _ _ | .repeated _ _ => false
  | _ => true

theorem Session.nested_request (session : Session α ε σ) (callOff : Session α ε σ → Session α ε σ)
    {goOn : Session α ε σ → Report α ε σ} (hgo : ∀ session, (goOn session).nested = []) :
    (session.request c callOff goOn).nested = [] := by
  unfold request
  dsimp only
  split
  · rfl
  · rfl
  · rw [nested_preceded, hgo]

theorem Session.nested_proceed (session : Session α ε σ) (id : String) (pending : Pending α ε) :
    (session.proceed c id pending).nested = [] := by
  unfold proceed
  split
  · rfl
  · exact nested_settle _ _ _

theorem Session.nested_perform {action : Action α ε} (h : action.plain = true) (session : Session α ε σ) :
    (perform c move action session).nested = [] := by
  cases action with
  | attempt form outcome during =>
    cases form with
    | running => cases h
    | constant =>
      rw [perform_constant]
      exact nested_request session _ fun _ => nested_settle _ _ _
  | repeated => cases h
  | poll id =>
    show (session.poll c id).nested = []
    cases hp : session.pending? id with
    | none => rw [poll, hp]; rfl
    | some pending =>
      cases ha : pending.admitted with
      | true =>
        rw [poll_admitted hp ha]
        exact nested_proceed session id pending
      | false =>
        rw [poll_prepared hp ha]
        exact nested_request session _ fun _ => (nested_preceded _ _).trans (nested_proceed _ id pending)
  | resolve id outcome =>
    rw [perform]
    split <;> rfl
  | abandon id =>
    rw [perform]
    split <;> rfl
  | _ => rfl

theorem Session.nested_performAll {actions : List (Action α ε)} (h : ∀ action ∈ actions, action.plain = true)
    (session : Session α ε σ) : ∀ report ∈ (performAll c move actions session).1, report.nested = [] := by
  induction actions generalizing session with
  | nil => nofun
  | cons action actions ih =>
    obtain ⟨hfirst, hrest⟩ := List.forall_mem_cons.1 h
    exact List.forall_mem_cons.2 ⟨nested_perform hfirst session, ih hrest _⟩

theorem plain_asFuture (id : String) (outcome : Outcome α ε) (waits : Bool) {during : List (Action α ε)}
    (h : ∀ action ∈ during, action.plain = true) :
    ∀ action ∈ asFuture id outcome waits during, action.plain = true := by
  have hlate : ∀ action ∈ during ++ [.resolve id outcome, .poll id], action.plain = true := by
    refine List.forall_mem_append.2 ⟨h, ?_⟩
    simp [Action.plain]
  cases waits with
  | false => simp [asFuture, Action.plain]
  | true => exact List.forall_mem_cons.2 ⟨rfl, List.forall_mem_cons.2 ⟨rfl, hlate⟩⟩

theorem Action.plain_again {row : Session α ε σ → List (Action α ε)} (pass : Session α ε σ → Session α ε σ)
    (h : ∀ session, ∀ action ∈ row session, action.plain = true) : ∀ (times : Nat) (session : Session α ε σ),
    ∀ action ∈ again row pass times session, action.plain = true
  | 0, _ => nofun
  | times + 1, session => List.forall_mem_append.2 ⟨h session, plain_again pass h times (pass session)⟩

mutual

theorem Action.plain_flat : ∀ (action : Action α ε) (depth : Nat) (session : Session α ε σ),
    ∀ flat ∈ action.flat c move name depth session, flat.plain = true
  | .attempt .running outcome during, depth, session =>
    plain_asFuture (name depth) outcome (session.granted c) (plain_flatAll during (depth + 1) _)
  | .repeated times actions, depth, session => plain_again _ (plain_flatAll actions depth) times session
  | .attempt .constant _ _, _, _ | .kind, _, _ | .isKind _, _, _ | .forceOpen, _, _ | .forceClose, _, _
  | .snapshot, _, _ | .look, _, _ | .move _, _, _ | .prepare _, _, _ | .poll _, _, _ | .resolve _ _, _, _
  | .abandon _, _, _ => List.forall_mem_singleton.2 rfl

theorem Action.plain_flatAll : ∀ (actions : List (Action α ε)) (depth : Nat) (session : Session α ε σ),
    ∀ flat ∈ flatAll c move name depth actions session, flat.plain = true
  | [], _, _ => nofun
  | action :: actions, depth, session =>
    List.forall_mem_append.2 ⟨plain_flat action depth session, plain_flatAll actions depth _⟩

end

end

/-! ## The forms of attempts -/

/-- An admission starts nothing. -/
theorem Circuit.started_notMem_admission (memory : Memory ε) (world : σ) :
    Note.started ∉ (c.admission memory world).notes := by
  intro h
  rcases Call.mem_notes_bind h with h | ⟨_, after, world', _, h, _⟩
  · have hmove : Note.started ∈ (c.transition? (memory.state.refresh (c.world.now world).1 c.settings.cooldown)
        memory (c.world.now world).2).notes := h
    rw [c.transition?_apply] at hmove
    exact Memory.started_notMem_moveNotes _ _ hmove
  · cases ha : after.state.admits with
    | true => rw [c.decision_of_admits ha] at h; cases h
    | false => rw [c.decision_of_rejects ha] at h; simp at h

/-- Some actions come to the same as another: all that happens in them is the same in the same order,
clients are told the same, the last answer is the same, and they leave the same, but for what waits under
names of their own. -/
structure ComesTo (own : String → Prop) (reports : List (Report α ε σ) × Session α ε σ) (report : Report α ε σ) :
    Prop where
  timeline : Report.timelines reports.1 = report.timeline
  told : Report.toldAll reports.1 = report.told
  answer : reports.1.getLast?.map Report.answer = some report.answer
  memory : reports.2.memory = report.session.memory
  world : reports.2.world = report.session.world
  calls : ∀ id, ¬ own id → reports.2.pending? id = report.session.pending? id

theorem Report.AllAlike.comesTo {name : Nat → String} {reports : List (Report α ε σ) × Session α ε σ}
    {report : Report α ε σ} (h : Report.AllAlike Eq (Nested name 0) reports ([report], report.session))
    (ha : reports.1.getLast?.map Report.answer = some report.answer) :
    ComesTo (fun id => ∃ i, id = name i) reports report := by
  refine ⟨?_, ?_, ha, h.session.memory.eq, h.session.world, fun id hid => ?_⟩
  · simpa [Report.timelines] using h.timeline
  · simpa [Report.toldAll] using told_eq_of_alike h.told
  · exact (h.session.calls id).2 fun i hi => hid ⟨i, hi⟩

/-- A value that is there already takes the place of an operation that makes no calls. -/
theorem Session.constant_of_running (session : Session α ε σ) (outcome : Outcome α ε)
    (during : List (Action α ε)) :
    let constant := session.perform c move (.attempt .constant outcome during)
    let ran := session.perform c move (.attempt .running outcome [])
    constant.answer = ran.answer ∧ constant.session = ran.session ∧ constant.told = ran.told ∧
      ∃ before after, ran.timeline = before ++ (if session.granted c then [.started] else []) ++ after ∧
        constant.timeline = before ++ after := by
  intro constant ran
  let asked := c.admission session.memory session.world
  cases hg : session.granted c with
  | false =>
    obtain ⟨answer, -, hrequest⟩ := Session.request_of_not_granted hg
    have hconstant : constant = (session.having asked).report answer asked.notes :=
      (perform_constant _ _ _).trans (hrequest _ _ _ rfl rfl)
    have hran : ran = (session.having asked).report answer asked.notes :=
      (perform_running _ _ _).trans (hrequest _ _ _ rfl rfl)
    rw [hconstant, hran]
    exact ⟨rfl, rfl, rfl, asked.notes, [], by simp, by simp⟩
  | true =>
    have hr : asked.result = .ok none := Session.granted_iff.1 hg
    let settled := (session.having asked).settle c outcome
    have hconstant : constant = preceded asked.notes settled := by
      refine (perform_constant _ _ _).trans ?_
      rw [request, hr]
    have hran : ran = .mk settled.answer (asked.notes ++ [.started]) [] settled.notes settled.session :=
      perform_running_of_admitted hr outcome []
    rw [hconstant, hran]
    refine ⟨?_, session_preceded _ _, ?_, asked.notes, settled.notes, ?_, ?_⟩
    · exact answer_preceded _ _
    · rw [told_preceded, told_settle, Report.told, Report.toldAll, List.nil_append]
    · simp [Report.timeline, Report.timelines]
    · rw [timeline_preceded, timeline_settle]

theorem Session.alike_nested_zero (session : Session α ε σ) (name : Nat → String) :
    session.Alike Eq (Nested name 0) session :=
  ⟨⟨rfl, rfl⟩, rfl, fun _ => ⟨fun i hi => absurd hi (Nat.not_lt_zero i), fun _ => rfl⟩⟩

/-- The calls of the operation may stay as they are. -/
theorem Session.comesTo_asFuture (session : Session α ε σ) {id : String} (outcome : Outcome α ε)
    {during : List (Action α ε)} (hid : id ∉ Action.idsAll during) :
    ComesTo (· = id) (session.performAll c move (asFuture id outcome (session.granted c) during))
      (session.perform c move (.attempt .running outcome during)) := by
  let asked := session.having (c.admission session.memory session.world)
  have hbody (a : Session α ε σ) (ha : a.Alike Eq (Nested (fun _ => id) 1) asked) :
      Report.AllAlike Eq (Nested (fun _ => id) 1) (a.performAll c move during) (asked.performAll c move during) := by
    refine ha.performAll (fun _ => rfl) during fun other ho => nested_of_ne 1 fun _ => ?_
    rintro rfl
    exact hid ho
  obtain ⟨hall, hanswer⟩ := (session.alike_nested_zero fun _ => id).future
    (fun i hi => absurd hi (Nat.not_lt_zero i)) outcome hbody
  have hcomes := hall.comesTo hanswer
  exact { hcomes with calls := fun other ho => hcomes.calls other fun hother => ho hother.choose_spec }

/-- The attempts among the calls, down to the innermost, may become futures too. -/
theorem Session.comesTo_flat (session : Session α ε σ) {name : Nat → String} (outcome : Outcome α ε)
    {during : List (Action α ε)} (hname : ∀ i j, name i = name j → i = j)
    (hids : ∀ i, name i ∉ Action.idsAll during) :
    ComesTo (fun id => ∃ i, id = name i)
      (session.performAll c move ((Action.attempt .running outcome during).flat c move name 0 session))
      (session.perform c move (.attempt .running outcome during)) := by
  let asked := session.having (c.admission session.memory session.world)
  have hbody (a : Session α ε σ) (ha : a.Alike Eq (Nested name 1) asked) :
      Report.AllAlike Eq (Nested name 1) (a.performAll c move (Action.flatAll c move name 1 during asked))
        (asked.performAll c move during) := alike_flatAll hname during hids ha
  obtain ⟨hall, hanswer⟩ := (session.alike_nested_zero name).future
    (fun i hi => absurd hi (Nat.not_lt_zero i)) outcome hbody
  exact hall.comesTo hanswer

/-- The first poll leaves a future waiting if and only if its attempt is admitted. -/
theorem Session.answer_poll_eq_waiting (session : Session α ε σ) (id : String) :
    ((session.withCall id ⟨false, none⟩).poll c id).answer = .waiting ↔ session.granted c = true := by
  have hprepared := session.pending?_withCall_self id ⟨false, none⟩
  cases hg : session.granted c with
  | false =>
    obtain ⟨answer, hanswer, hrequest⟩ := Session.request_of_not_granted hg
    rw [Session.poll_prepared hprepared rfl, hrequest (session.withCall id ⟨false, none⟩) _ _ rfl rfl]
    exact ⟨fun h => absurd h hanswer, nofun⟩
  | true =>
    have hpoll := Session.poll_waiting hprepared (Session.granted_iff.1 hg)
    rw [hpoll]
    exact ⟨fun _ => rfl, fun _ => rfl⟩

/-- Nothing is started or called in an attempt that is not admitted. -/
theorem Session.perform_of_not_granted {session : Session α ε σ} (hg : session.granted c = false)
    (outcome : Outcome α ε) (during : List (Action α ε)) :
    let attempted := session.perform c move (.attempt .running outcome during)
    attempted.nested = [] ∧ Note.started ∉ attempted.timeline := by
  intro attempted
  obtain ⟨answer, -, hrequest⟩ := Session.request_of_not_granted hg
  have hattempted : attempted = (session.having (c.admission session.memory session.world)).report answer
      (c.admission session.memory session.world).notes :=
    (Session.perform_running _ _ _).trans (hrequest session _ _ rfl rfl)
  rw [hattempted, Session.timeline_report]
  exact ⟨rfl, Circuit.started_notMem_admission _ _⟩

/-- The forms of attempts agree. An attempt whose operation makes calls comes to the same as a future, of an
asynchronous operation or of an effect, that is polled once before these calls and once after them; this is
so also if the attempts among the calls, and those in the operations of these, down to the innermost, become
futures in turn, and no call is nested in another any more. The first poll leaves the future waiting if and
only if the attempt is admitted, and otherwise nothing is started and none of the calls is made. An effect
that is a value and needs no operation comes to the same as one that makes no calls, but for its start. -/
theorem forms_agree (c : Circuit σ) (move : ClockMove → σ → σ) (session : Session α ε σ) (outcome : Outcome α ε)
    (during : List (Action α ε)) :
    let attempted := session.perform c move (.attempt .running outcome during)
    (∀ id, id ∉ Action.idsAll during →
      ComesTo (· = id) (session.performAll c move (asFuture id outcome (session.granted c) during)) attempted) ∧
    (∀ name : Nat → String, (∀ i j, name i = name j → i = j) → (∀ i, name i ∉ Action.idsAll during) →
      let flat := (Action.attempt .running outcome during).flat c move name 0 session
      ComesTo (fun id => ∃ i, id = name i) (session.performAll c move flat) attempted ∧
        ∀ report ∈ (session.performAll c move flat).1, report.nested = []) ∧
    (∀ id, ((session.withCall id ⟨false, none⟩).poll c id).answer = .waiting ↔ session.granted c = true) ∧
    (session.granted c = false → attempted.nested = [] ∧ Note.started ∉ attempted.timeline) ∧
    let constant := session.perform c move (.attempt .constant outcome during)
    let ran := session.perform c move (.attempt .running outcome [])
    constant.answer = ran.answer ∧ constant.session = ran.session ∧ constant.told = ran.told ∧
      ∃ before after, ran.timeline = before ++ (if session.granted c then [.started] else []) ++ after ∧
        constant.timeline = before ++ after := by
  intro attempted
  refine ⟨fun id hid => ?_, fun name hname hids => ⟨?_, ?_⟩, fun id => ?_, fun hg => ?_, ?_⟩
  · exact session.comesTo_asFuture outcome hid
  · exact session.comesTo_flat outcome hname hids
  · exact Session.nested_performAll (Action.plain_flat _ 0 session) session
  · exact session.answer_poll_eq_waiting id
  · exact Session.perform_of_not_granted hg outcome during
  · exact session.constant_of_running outcome during

namespace Bench

/-- Names for futures, told apart by their lengths. -/
def numbered (i : Nat) : String := String.ofList (List.replicate i 'i')

theorem numbered_inj (i j : Nat) (h : numbered i = numbered j) : i = j := by
  have hlength := congrArg String.length h
  simpa [numbered] using hlength

/-- Calls of an operation: a query, an attempt that fails after another one in its operation, and a last
attempt. -/
def entangled : List (Action Unit String) :=
  [.kind, .attempt .running (.failure "down") [.attempt .running (.ok ()) []], .attempt .running (.ok ()) []]

end Bench

/-- Three operations are started, one in another, before the circuit opens and the last attempt is refused.
So it is with four futures. -/
theorem forms_agree_entangled :
    let session : Session Unit String Bench := .start (Bench.reading 0)
    let nested : Action Unit String := .attempt .running (.ok ()) Bench.entangled
    let flattened := session.performAll Bench.fragile Bench.move
      (nested.flat Bench.fragile Bench.move Bench.numbered 0 session)
    (∀ i j, Bench.numbered i = Bench.numbered j → i = j) ∧
      (∀ i, Bench.numbered i ∉ Action.idsAll Bench.entangled) ∧ session.granted Bench.fragile = true ∧
      (Report.timelines flattened.1).count .started = 3 ∧ ∀ report ∈ flattened.1, report.nested = [] := by
  intro session nested flattened
  have hids : ∀ i, Bench.numbered i ∉ Action.idsAll Bench.entangled := fun i => List.not_mem_nil
  obtain ⟨-, hflat, -⟩ := forms_agree Bench.fragile Bench.move session (.ok ()) Bench.entangled
  obtain ⟨hcomes, hplain⟩ := hflat Bench.numbered Bench.numbered_inj hids
  have hcount : (session.perform Bench.fragile Bench.move nested).timeline.count .started = 3 := by decide
  have htimeline : Report.timelines flattened.1 = (session.perform Bench.fragile Bench.move nested).timeline :=
    hcomes.timeline
  exact ⟨Bench.numbered_inj, hids, by decide, by rw [htimeline]; exact hcount, hplain⟩

end CircuitBreaker
