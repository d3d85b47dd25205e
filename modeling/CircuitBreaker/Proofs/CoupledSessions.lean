/-
Sessions next to each other. Clients of two circuit breakers that are coupled do the same, but for failures
and values of operations. The sessions stay coupled through all actions, with calls nested in others and
calls that wait: the same happens in them, and clients are told the same, but for what may differ.
-/
import CircuitBreaker.Proofs.Coupling
import CircuitBreaker.Proofs.Reports

namespace CircuitBreaker.Coupling

variable {α α' β β' γ ε ε' σ σ' : Type} {c : Circuit σ} {c' : Circuit σ'}
  {move : ClockMove → σ → σ} {move' : ClockMove → σ' → σ'}

/-! ## What is coupled in sessions -/

section

variable (k : Coupling α α' ε ε' c c')
  (P : String → Option (Pending α ε) → Option (Pending α' ε') → Prop)

inductive Outcomes : Outcome α ε → Outcome α' ε' → Prop
  | ok {a a'} (h : k.values a a') : Outcomes (.ok a) (.ok a')
  | failure {e e'} (h : k.failures e e') : Outcomes (.failure e) (.failure e')
  | panic (text) : Outcomes (.panic text) (.panic text)

structure Pendings (pending : Pending α ε) (pending' : Pending α' ε') : Prop where
  admitted : pending.admitted = pending'.admitted
  outcome : Option.Rel k.Outcomes pending.outcome pending'.outcome

/-- What waits under a name in the one session and in the other is as `P` says for this name. -/
structure Sessions (s : Session α ε σ) (s' : Session α' ε' σ') : Prop where
  memory : k.Memories s.memory s'.memory
  world : k.worlds s.world s'.world
  calls : ∀ id, P id (s.pending? id) (s'.pending? id)

/-- Answers, each with what is remembered then. -/
def Told (told : Answer α ε × Memory ε) (told' : Answer α' ε' × Memory ε') : Prop :=
  k.Answers told.1 told'.1 ∧ k.Memories told.2 told'.2

structure Reports (r : Report α ε σ) (r' : Report α' ε' σ') : Prop where
  answer : k.Answers r.answer r'.answer
  timeline : List.Forall₂ k.Notes r.timeline r'.timeline
  told : List.Forall₂ k.Told r.told r'.told
  session : k.Sessions P r.session r'.session

/-- Reports of actions in a row, with the session after them. -/
structure AllReports (rs : List (Report α ε σ) × Session α ε σ) (rs' : List (Report α' ε' σ') × Session α' ε' σ') :
    Prop where
  timeline : List.Forall₂ k.Notes (Report.timelines rs.1) (Report.timelines rs'.1)
  told : List.Forall₂ k.Told (Report.toldAll rs.1) (Report.toldAll rs'.1)
  session : k.Sessions P rs.2 rs'.2

/-- Moves of the clocks keep the surroundings coupled. -/
def Moves (move : ClockMove → σ → σ) (move' : ClockMove → σ' → σ') : Prop :=
  ∀ m {a b}, k.worlds a b → k.worlds (move m a) (move' m b)

/-- The same calls may wait in both sessions. -/
abbrev Waits : Option (Pending α ε) → Option (Pending α' ε') → Prop := Option.Rel k.Pendings

mutual

/-- The actions are the same but for failures and values. The calls that they speak of are the same in both
sessions. -/
inductive Actions : Action α ε → Action α' ε' → Prop
  | attempt (form) {o o' during during'} (ho : k.Outcomes o o') (hd : AllActions during during') :
      Actions (.attempt form o during) (.attempt form o' during')
  | kind : Actions .kind .kind
  | isKind (kind) : Actions (.isKind kind) (.isKind kind)
  | forceOpen : Actions .forceOpen .forceOpen
  | forceClose : Actions .forceClose .forceClose
  | snapshot : Actions .snapshot .snapshot
  | look : Actions .look .look
  | move (m) : Actions (.move m) (.move m)
  | repeated (times) {actions actions'} (h : AllActions actions actions') :
      Actions (.repeated times actions) (.repeated times actions')
  | prepare {id} (hid : P id = k.Waits) : Actions (.prepare id) (.prepare id)
  | poll {id} (hid : P id = k.Waits) : Actions (.poll id) (.poll id)
  | resolve {id} (hid : P id = k.Waits) {o o'} (ho : k.Outcomes o o') : Actions (.resolve id o) (.resolve id o')
  | abandon {id} (hid : P id = k.Waits) : Actions (.abandon id) (.abandon id)

/-- The same in a row. What is done to calls that do not matter may be left out in the second session. -/
inductive AllActions : List (Action α ε) → List (Action α' ε') → Prop
  | nil : AllActions [] []
  | cons {action action' actions actions'} (h : Actions action action') (hs : AllActions actions actions') :
      AllActions (action :: actions) (action' :: actions')
  | skip {action actions actions'} {hidden : String → Bool} (h : action.hides hidden = true)
      (hP : ∀ id, hidden id = true → ∀ p p', P id p p') (hs : AllActions actions actions') :
      AllActions (action :: actions) actions'

end

end

variable {k : Coupling α α' ε ε' c c'} {R : β → β' → Prop}
  {P P' : String → Option (Pending α ε) → Option (Pending α' ε') → Prop}

theorem Answers.final {answer : Answer α ε} {answer' : Answer α' ε'} (h : k.Answers answer answer') :
    answer.final = answer'.final := by
  cases h <;> rfl

namespace Sessions

variable {s : Session α ε σ} {s' : Session α' ε' σ'}

/-! ## Calls that wait -/

theorem having (h : k.Sessions P s s') {ended : Ended ε σ β} {ended' : Ended ε' σ' β'}
    (he : k.Endings R ended ended') : k.Sessions P (s.having ended) (s'.having ended') :=
  ⟨he.memory, he.world, h.calls⟩

theorem without (h : k.Sessions P s s') {id : String} (hn : P id none none) :
    k.Sessions P (s.without id) (s'.without id) :=
  ⟨h.memory, h.world, Session.calls_without h.calls hn⟩

theorem withCall (h : k.Sessions P s s') {id : String} {pending : Pending α ε} {pending' : Pending α' ε'}
    (hs : P id (some pending) (some pending')) :
    k.Sessions P (s.withCall id pending) (s'.withCall id pending') :=
  ⟨h.memory, h.world, Session.calls_withCall h.calls hs⟩

/-! ## Parts of sessions -/

theorem report (h : k.Sessions P s s') {answer : Answer α ε} {answer' : Answer α' ε'}
    (ha : k.Answers answer answer') {notes notes' : List Note} (hn : List.Forall₂ k.Notes notes notes') :
    k.Reports P (s.report answer notes) (s'.report answer' notes') := by
  refine ⟨ha, ?_, ?_, h⟩
  · rw [Session.timeline_report, Session.timeline_report]
    exact hn
  · rw [Session.told_report, Session.told_report, ha.final]
    split
    · exact .cons ⟨ha, h.memory⟩ .nil
    · exact .nil

theorem ask (h : k.Sessions P s s') {call : Call ε σ β} {call' : Call ε' σ' β'} (hc : k.Calls R call call')
    {answer : β → Answer α ε} {answer' : β' → Answer α' ε'} (ha : ∀ b b', R b b' → k.Answers (answer b) (answer' b')) :
    k.Reports P (s.ask call answer) (s'.ask call' answer') := by
  have he := hc s.memory s'.memory s.world s'.world h.memory h.world
  have hresult := he.result
  unfold Session.ask
  rw [Session.call_eq, Session.call_eq]
  refine (h.having he).report ?_ he.notes
  generalize (call s.memory s.world).result = result at hresult ⊢
  generalize (call' s'.memory s'.world).result = result' at hresult ⊢
  cases hresult with
  | value hb => exact ha _ _ hb
  | panic text => exact .panicked text

theorem settle (h : k.Sessions P s s') {outcome : Outcome α ε} {outcome' : Outcome α' ε'}
    (ho : k.Outcomes outcome outcome') : k.Reports P (s.settle c outcome) (s'.settle c' outcome') := by
  cases ho with
  | ok ha => exact h.ask (calls_record (.ok ha)) fun _ _ hb => hb
  | failure he => exact h.ask (calls_record (.error he)) fun _ _ hb => hb
  | panic text => exact h.report (.panicked text) .nil

end Sessions

theorem Reports.preceded {r : Report α ε σ} {r' : Report α' ε' σ'} (h : k.Reports P r r') {before before' : List Note}
    (hb : List.Forall₂ k.Notes before before') :
    k.Reports P (Session.preceded before r) (Session.preceded before' r') := by
  refine ⟨?_, ?_, ?_, ?_⟩
  · simpa using h.answer
  · rw [Session.timeline_preceded, Session.timeline_preceded]
    exact List.rel_append hb h.timeline
  · simpa using h.told
  · simpa using h.session

theorem AllReports.nil {s : Session α ε σ} {s' : Session α' ε' σ'} (h : k.Sessions P s s') :
    k.AllReports P (([] : List (Report α ε σ)), s) (([] : List (Report α' ε' σ')), s') :=
  ⟨.nil, .nil, h⟩

theorem AllReports.append {early late : List (Report α ε σ)} {early' late' : List (Report α' ε' σ')}
    {s t : Session α ε σ} {s' t' : Session α' ε' σ'} (he : k.AllReports P (early, s) (early', s'))
    (hl : k.AllReports P' (late, t) (late', t')) : k.AllReports P' (early ++ late, t) (early' ++ late', t') := by
  refine ⟨?_, ?_, hl.session⟩
  · rw [Report.timelines_append, Report.timelines_append]
    exact List.rel_append he.timeline hl.timeline
  · rw [Report.toldAll_append, Report.toldAll_append]
    exact List.rel_append he.told hl.told

/-- What is the same of answers and of memories that may stand for each other is the same of what clients are
told. -/
theorem told_eq {f : Answer α ε → β} {f' : Answer α' ε' → β} {g : Memory ε → γ} {g' : Memory ε' → γ}
    (hf : ∀ a a', k.Answers a a' → f a = f' a') (hg : ∀ m m', k.Memories m m' → g m = g' m')
    {told : List (Answer α ε × Memory ε)} {told' : List (Answer α' ε' × Memory ε')}
    (h : List.Forall₂ k.Told told told') : told.map (Prod.map f g) = told'.map (Prod.map f' g') := by
  refine map_eq_of_forall₂ ?_ h
  rintro ⟨answer, memory⟩ ⟨answer', memory'⟩ ⟨ha, hm⟩
  exact Prod.ext (hf _ _ ha) (hg _ _ hm)

/-! ## Actions -/

section

variable {s : Session α ε σ} {s' : Session α' ε' σ'}

theorem Sessions.request (h : k.Sessions P s s') {callOff : Session α ε σ → Session α ε σ}
    {callOff' : Session α' ε' σ' → Session α' ε' σ'} {goOn : Session α ε σ → Report α ε σ}
    {goOn' : Session α' ε' σ' → Report α' ε' σ'}
    (hcall : ∀ t t', k.Sessions P t t' → k.Sessions P (callOff t) (callOff' t'))
    (hgo : ∀ t t', k.Sessions P t t' → k.Reports P (goOn t) (goOn' t')) :
    k.Reports P (s.request c callOff goOn) (s'.request c' callOff' goOn') := by
  have he := calls_admission s.memory s'.memory s.world s'.world h.memory h.world
  have hresult := he.result
  have hthen := h.having he
  unfold Session.request
  dsimp only
  generalize (c.admission s.memory s.world).result = result at hresult ⊢
  generalize (c'.admission s'.memory s'.world).result = result' at hresult ⊢
  cases hresult with
  | panic text => exact (hcall _ _ hthen).report (.panicked text) he.notes
  | value hreply =>
    cases hreply with
    | none => exact (hgo _ _ hthen).preceded he.notes
    | some hr => exact (hcall _ _ hthen).report (.rejected hr) he.notes

theorem Sessions.proceed (h : k.Sessions P s s') {id : String} (hid : P id = k.Waits) {pending : Pending α ε}
    {pending' : Pending α' ε'} (hp : k.Pendings pending pending') :
    k.Reports P (s.proceed c id pending) (s'.proceed c' id pending') := by
  obtain ⟨admitted, outcome⟩ := pending
  obtain ⟨admitted', outcome'⟩ := pending'
  have ho : Option.Rel k.Outcomes outcome outcome' := hp.outcome
  unfold Session.proceed
  cases ho with
  | none => exact (h.withCall (by rw [hid]; exact .some ⟨rfl, .none⟩)).report .waiting .nil
  | some ho => exact (h.without (by rw [hid]; exact .none)).settle ho

theorem Sessions.poll (h : k.Sessions P s s') {id : String} (hid : P id = k.Waits) :
    k.Reports P (s.poll c id) (s'.poll c' id) := by
  have hcalls := h.calls id
  rw [hid] at hcalls
  generalize hp : s.pending? id = waits at hcalls
  generalize hp' : s'.pending? id = waits' at hcalls
  cases hcalls with
  | none =>
    unfold Session.poll
    rw [hp, hp']
    exact h.report .unknownCall .nil
  | @some pending pending' hpending =>
    have hsame := hpending.admitted
    cases ha : pending.admitted with
    | true =>
      rw [Session.poll_admitted hp ha, Session.poll_admitted hp' (hsame ▸ ha)]
      exact h.proceed hid hpending
    | false =>
      rw [Session.poll_prepared hp ha, Session.poll_prepared hp' (hsame ▸ ha)]
      refine h.request (fun t t' ht => ht.without (by rw [hid]; exact .none)) fun t t' ht => ?_
      exact (ht.proceed hid hpending).preceded (.cons (.same _) .nil)

theorem Sessions.passes {pass : Session α ε σ → List (Report α ε σ) × Session α ε σ}
    {pass' : Session α' ε' σ' → List (Report α' ε' σ') × Session α' ε' σ'}
    (hp : ∀ t t', k.Sessions P t t' → k.AllReports P (pass t) (pass' t')) :
    ∀ (times : Nat) {s : Session α ε σ} {s' : Session α' ε' σ'}, k.Sessions P s s' →
      k.AllReports P (Session.passes pass times s) (Session.passes pass' times s')
  | 0, _, _, h => .nil h
  | times + 1, s, s', h => (hp s s' h).append (passes hp times (hp s s' h).session)

/-- An operation that runs, with what its client does meanwhile. -/
theorem AllReports.running {outcome : Outcome α ε} {outcome' : Outcome α' ε'} (ho : k.Outcomes outcome outcome')
    {during : List (Action α ε)} {during' : List (Action α' ε')}
    (hd : k.AllReports P (Session.performAll c move during s) (Session.performAll c' move' during' s')) :
    k.Reports P (Session.running c move outcome during s) (Session.running c' move' outcome' during' s') := by
  have hend := hd.session.settle ho
  have hnotes := hend.timeline
  rw [Session.timeline_settle, Session.timeline_settle] at hnotes
  refine ⟨hend.answer, ?_, ?_, hend.session⟩
  · simp only [Session.running, Report.timeline]
    exact List.rel_append (List.rel_append (.cons (.same _) .nil) hd.timeline) hnotes
  · simp only [Session.running, Report.told, hend.answer.final]
    refine List.rel_append hd.told ?_
    split
    · exact .cons ⟨hend.answer, hend.session.memory⟩ .nil
    · exact .nil

/-- What may be left out shows nowhere else. -/
theorem Sessions.skip (h : k.Sessions P s s') (move : ClockMove → σ → σ) {action : Action α ε} {hidden : String → Bool}
    (ha : action.hides hidden = true) (hP : ∀ id, hidden id = true → ∀ p p', P id p p') :
    k.Sessions P (Session.perform c move action s).session s' := by
  obtain ⟨-, -, hmemory, hworld, hcalls⟩ := Session.perform_of_hides c move ha s
  refine ⟨by rw [hmemory]; exact h.memory, by rw [hworld]; exact h.world, fun id => ?_⟩
  cases hh : hidden id with
  | true => exact hP id hh _ _
  | false => rw [hcalls id hh]; exact h.calls id

end

mutual

theorem coupled_perform (hmove : k.Moves move move') : ∀ (action : Action α ε) {action' : Action α' ε'}
    {s : Session α ε σ} {s' : Session α' ε' σ'}, k.Actions P action action' → k.Sessions P s s' →
    k.Reports P (Session.perform c move action s) (Session.perform c' move' action' s')
  | .attempt form outcome during, _, s, s', ha, h => by
    cases ha with
    | attempt _ ho hd =>
      cases form with
      | constant =>
        rw [Session.perform_constant, Session.perform_constant]
        exact h.request (fun _ _ ht => ht) fun _ _ ht => ht.settle ho
      | running =>
        rw [Session.perform_running, Session.perform_running]
        refine h.request (fun _ _ ht => ht) fun _ _ ht => ?_
        exact (coupled_performAll hmove during hd ht).running ho
  | .kind, _, s, s', ha, h => by
    cases ha
    exact h.ask calls_kind fun _ _ hb => hb ▸ .kind _
  | .isKind kind, _, s, s', ha, h => by
    cases ha
    exact h.ask calls_kind fun _ _ hb => hb ▸ .truth _
  | .forceOpen, _, s, s', ha, h => by
    cases ha
    exact h.ask calls_forceOpen fun _ _ _ => .done
  | .forceClose, _, s, s', ha, h => by
    cases ha
    exact h.ask calls_forceClose fun _ _ _ => .done
  | .snapshot, _, s, s', ha, h => by
    cases ha
    exact h.ask calls_snapshot fun _ _ hb => .snapshot hb
  | .look, _, s, s', ha, h => by
    cases ha
    exact h.report .done .nil
  | .move m, _, s, s', ha, h => by
    cases ha
    have hmoved : k.Sessions P { s with world := move m s.world } { s' with world := move' m s'.world } :=
      ⟨h.memory, hmove m h.world, h.calls⟩
    exact hmoved.report .done .nil
  | .repeated times actions, _, s, s', ha, h => by
    cases ha with
    | repeated _ hs =>
      have hall := Sessions.passes (fun _ _ ht => coupled_performAll hmove actions hs ht) times h
      rw [Session.perform, Session.perform]
      refine ⟨.repeated, ?_, ?_, hall.session⟩
      · simpa only [Report.timeline, List.nil_append, List.append_nil] using hall.timeline
      · simpa [Report.told, Answer.final] using hall.told
  | .prepare id, _, s, s', ha, h => by
    cases ha with
    | prepare hid =>
      have hcalls := h.calls id
      rw [hid] at hcalls
      rw [Session.perform, Session.perform]
      have hnew : k.Sessions P (s.withCall id ⟨false, none⟩) (s'.withCall id ⟨false, none⟩) :=
        h.withCall (by rw [hid]; exact .some ⟨rfl, .none⟩)
      generalize s.pending? id = waits at hcalls ⊢
      generalize s'.pending? id = waits' at hcalls ⊢
      cases hcalls with
      | none | some => exact hnew.report (.prepared _) .nil
  | .poll id, _, s, s', ha, h => by
    cases ha with
    | poll hid => exact h.poll hid
  | .resolve id outcome, _, s, s', ha, h => by
    cases ha with
    | resolve hid ho =>
      have hcalls := h.calls id
      rw [hid] at hcalls
      rw [Session.perform, Session.perform]
      generalize s.pending? id = waits at hcalls ⊢
      generalize s'.pending? id = waits' at hcalls ⊢
      cases hcalls with
      | none => exact h.report .unknownCall .nil
      | some hp => exact (h.withCall (by rw [hid]; exact .some ⟨hp.admitted, .some ho⟩)).report .resolved .nil
  | .abandon id, _, s, s', ha, h => by
    cases ha with
    | abandon hid =>
      have hcalls := h.calls id
      rw [hid] at hcalls
      rw [Session.perform, Session.perform]
      generalize s.pending? id = waits at hcalls ⊢
      generalize s'.pending? id = waits' at hcalls ⊢
      cases hcalls with
      | none => exact h.report .unknownCall .nil
      | some _ => exact (h.without (by rw [hid]; exact .none)).report .abandoned .nil

/-- Sessions that start coupled go on so, as long as their clients do. -/
theorem coupled_performAll (hmove : k.Moves move move') : ∀ (actions : List (Action α ε))
    {actions' : List (Action α' ε')} {s : Session α ε σ} {s' : Session α' ε' σ'},
    k.AllActions P actions actions' → k.Sessions P s s' →
    k.AllReports P (Session.performAll c move actions s) (Session.performAll c' move' actions' s')
  | [], _, s, s', ha, h => by
    cases ha
    exact .nil h
  | action :: actions, _, s, s', ha, h => by
    cases ha with
    | cons ha hs =>
      have hfirst := coupled_perform hmove action ha h
      have hrest := coupled_performAll hmove actions hs hfirst.session
      rw [Session.performAll, Session.performAll]
      refine ⟨?_, ?_, hrest.session⟩
      · exact List.rel_append hfirst.timeline hrest.timeline
      · exact List.rel_append hfirst.told hrest.told
    | skip ha hP hs =>
      have hrest := coupled_performAll hmove actions hs (h.skip move ha hP)
      obtain ⟨htimeline, htold, -⟩ := Session.perform_of_hides c move ha s
      rw [Session.performAll]
      refine ⟨?_, ?_, hrest.session⟩
      · simpa only [Report.timelines, htimeline, List.nil_append] using hrest.timeline
      · simpa only [Report.toldAll, htold, List.nil_append] using hrest.told

end

/-! ## The same actions -/

section

variable {k : Coupling α α ε ε c c'} {P : String → Option (Pending α ε) → Option (Pending α ε) → Prop}

theorem outcomes_refl (hv : ∀ a, k.values a a) (hf : ∀ e, k.failures e e) (outcome : Outcome α ε) :
    k.Outcomes outcome outcome := by
  cases outcome with
  | ok a => exact .ok (hv a)
  | failure e => exact .failure (hf e)
  | panic text => exact .panic text

theorem waits_refl (hv : ∀ a, k.values a a) (hf : ∀ e, k.failures e e) (pending : Option (Pending α ε)) :
    k.Waits pending pending := by
  cases pending with
  | none => exact .none
  | some pending =>
    refine .some ⟨rfl, ?_⟩
    cases pending.outcome with
    | none => exact .none
    | some outcome => exact .some (outcomes_refl hv hf outcome)

theorem Outcomes.eq (hv : ∀ a b, k.values a b → a = b) (hf : ∀ e e', k.failures e e' → e = e')
    {outcome outcome' : Outcome α ε} (h : k.Outcomes outcome outcome') : outcome = outcome' := by
  cases h with
  | ok h => rw [hv _ _ h]
  | failure h => rw [hf _ _ h]
  | panic text => rfl

/-- Where failures and values are the same, the same calls wait. -/
theorem waits_eq (hv : ∀ a b, k.values a b → a = b) (hf : ∀ e e', k.failures e e' → e = e')
    {pending pending' : Option (Pending α ε)} (h : k.Waits pending pending') : pending = pending' := by
  cases h with
  | none => rfl
  | @some p p' h =>
    obtain ⟨admitted, outcome⟩ := p
    obtain ⟨admitted', outcome'⟩ := p'
    obtain ⟨hadmitted, houtcome⟩ := h
    obtain rfl : admitted = admitted' := hadmitted
    cases houtcome with
    | none => rfl
    | some h => rw [h.eq hv hf]

mutual

/-- Of two clients who do the same, the second one may leave out what is done to calls under names that do
not matter, as long as they are never polled. -/
theorem actions_bare (hv : ∀ a, k.values a a) (hf : ∀ e, k.failures e e) {hidden : String → Bool}
    (hP : ∀ id, hidden id = true → ∀ p p', P id p p') : ∀ action : Action α ε, action.hides hidden = false →
    (∀ id ∈ action.ids, hidden id = false → P id = k.Waits) → (∀ id ∈ action.polled, hidden id = false) →
    k.Actions P action (action.bare hidden)
  | .attempt form outcome during, _, hids, hpolled =>
    .attempt form (outcomes_refl hv hf outcome) (allActions_bare hv hf hP during hids hpolled)
  | .repeated times actions, _, hids, hpolled => .repeated times (allActions_bare hv hf hP actions hids hpolled)
  | .kind, _, _, _ => .kind
  | .isKind kind, _, _, _ => .isKind kind
  | .forceOpen, _, _, _ => .forceOpen
  | .forceClose, _, _, _ => .forceClose
  | .snapshot, _, _, _ => .snapshot
  | .look, _, _, _ => .look
  | .move m, _, _, _ => .move m
  | .prepare id, hn, hids, _ => .prepare (hids id (List.mem_singleton_self id) hn)
  | .poll id, _, hids, hpolled =>
    .poll (hids id (List.mem_singleton_self id) (hpolled id (List.mem_singleton_self id)))
  | .resolve id outcome, hn, hids, _ =>
    .resolve (hids id (List.mem_singleton_self id) hn) (outcomes_refl hv hf outcome)
  | .abandon id, hn, hids, _ => .abandon (hids id (List.mem_singleton_self id) hn)

theorem allActions_bare (hv : ∀ a, k.values a a) (hf : ∀ e, k.failures e e) {hidden : String → Bool}
    (hP : ∀ id, hidden id = true → ∀ p p', P id p p') : ∀ actions : List (Action α ε),
    (∀ id ∈ Action.idsAll actions, hidden id = false → P id = k.Waits) →
    (∀ id ∈ Action.polledAll actions, hidden id = false) →
    k.AllActions P actions (Action.bareAll hidden actions)
  | [], _, _ => .nil
  | action :: actions, hids, hpolled => by
    obtain ⟨hids, hidsAll⟩ := List.forall_mem_append.1 hids
    obtain ⟨hpolled, hpolledAll⟩ := List.forall_mem_append.1 hpolled
    have hrest := allActions_bare hv hf hP actions hidsAll hpolledAll
    rw [Action.bareAll]
    cases hn : action.hides hidden with
    | false => exact .cons (actions_bare hv hf hP action hn hids hpolled) hrest
    | true => exact .skip hn hP hrest

end

/-- Clients who do the same speak of calls that wait alike. -/
theorem allActions_refl (hv : ∀ a, k.values a a) (hf : ∀ e, k.failures e e) (actions : List (Action α ε))
    (hids : ∀ id ∈ Action.idsAll actions, P id = k.Waits) : k.AllActions P actions actions := by
  have hbare : k.AllActions P actions (Action.bareAll (fun _ => false) actions) :=
    allActions_bare hv hf nofun actions (fun id hid _ => hids id hid) fun _ _ => rfl
  rwa [Action.bareAll_eq_self actions fun _ _ => rfl] at hbare

/-- Clients who do the same in sessions in which the same calls wait. -/
theorem coupled_same (hv : ∀ a, k.values a a) (hf : ∀ e, k.failures e e) (hmove : k.Moves move move')
    (actions : List (Action α ε)) {s : Session α ε σ} {s' : Session α ε σ'} (h : k.Sessions (fun _ => k.Waits) s s') :
    k.AllReports (fun _ => k.Waits) (Session.performAll c move actions s) (Session.performAll c' move' actions s') :=
  coupled_performAll hmove actions (allActions_refl hv hf actions fun _ _ => rfl) h

end

end CircuitBreaker.Coupling
