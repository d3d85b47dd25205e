/-
Sessions side by side. Sessions that remember alike in the same surroundings, and differ besides only in
calls that wait under names of which nobody speaks, go on alike: the same happens in them, and clients
are told the same. This is so also if one of them leaves out calls that are prepared and given up again
but never polled.
-/
import CircuitBreaker.Proofs.Alike
import CircuitBreaker.Proofs.CoupledSessions

namespace CircuitBreaker

variable {α ε σ : Type} {c : Circuit σ} {move : ClockMove → σ → σ}

/-! ## Being alike -/

section

variable (L : Option ε → Option ε → Prop) (P : String → Option (Pending α ε) → Option (Pending α ε) → Prop)

/-- The sessions remember alike in the same surroundings, and what waits under a name in the one and in
the other is as `P` says for this name. -/
structure Session.Alike (s s' : Session α ε σ) : Prop where
  memory : s.memory.Alike L s'.memory
  world : s.world = s'.world
  calls : ∀ id, P id (s.pending? id) (s'.pending? id)

/-- The same answer has been given, but for what it tells of the failure observed last, and alike is
what is remembered then. -/
def ToldAlike (told told' : Answer α ε × Memory ε) : Prop :=
  told.1.Alike L told'.1 ∧ told.2.Alike L told'.2

/-- The same has happened in the actions and their clients have been told the same. -/
structure Report.Alike (r r' : Report α ε σ) : Prop where
  answer : r.answer.Alike L r'.answer
  timeline : r.timeline = r'.timeline
  told : List.Forall₂ (ToldAlike L) r.told r'.told
  session : r.session.Alike L P r'.session

/-- So it is in actions in a row, and in what they leave. -/
structure Report.AllAlike (rs rs' : List (Report α ε σ) × Session α ε σ) : Prop where
  timeline : timelines rs.1 = timelines rs'.1
  told : List.Forall₂ (ToldAlike L) (toldAll rs.1) (toldAll rs'.1)
  session : rs.2.Alike L P rs'.2

end

section

variable {L : Option ε → Option ε → Prop} {hL : ∀ f, L f f}
  {P P' : String → Option (Pending α ε) → Option (Pending α ε) → Prop}

/-! ## Alike and coupled -/

theorem Coupling.waits_alike : (Coupling.alike α hL c.world.told_id).Waits = Eq := by
  funext p p'
  refine propext ⟨waits_eq (fun _ _ h => h) fun _ _ h => h, ?_⟩
  rintro rfl
  exact waits_refl (fun _ => rfl) (fun _ => rfl) p

theorem Coupling.sessions_alike {s s' : Session α ε σ} :
    (Coupling.alike α hL c.world.told_id).Sessions P s s' ↔ s.Alike L P s' :=
  ⟨fun h => ⟨memories_alike.1 h.memory, h.world, h.calls⟩, fun h => ⟨memories_alike.2 h.memory, h.world, h.calls⟩⟩

theorem Coupling.toldAlike {told told' : List (Answer α ε × Memory ε)}
    (h : List.Forall₂ (Coupling.alike α hL c.world.told_id).Told told told') :
    List.Forall₂ (ToldAlike L) told told' :=
  h.imp fun _ _ ht => ⟨ht.1.alike, memories_alike.1 ht.2⟩

theorem Coupling.Reports.alike {r r' : Report α ε σ} (h : (Coupling.alike α hL c.world.told_id).Reports P r r') :
    r.Alike L P r' :=
  ⟨h.answer.alike, notes_eq (fun _ _ h => h) h.timeline, toldAlike h.told, sessions_alike.1 h.session⟩

theorem Coupling.AllReports.alike {rs rs' : List (Report α ε σ) × Session α ε σ}
    (h : (Coupling.alike α hL c.world.told_id).AllReports P rs rs') : Report.AllAlike L P rs rs' :=
  ⟨notes_eq (fun _ _ h => h) h.timeline, toldAlike h.told, sessions_alike.1 h.session⟩

/-! ## Parts of sessions -/

theorem Answer.Alike.final {answer answer' : Answer α ε} (h : answer.Alike L answer') :
    answer.final = answer'.final := by
  cases h <;> rfl

namespace Session.Alike

variable {s s' : Session α ε σ}

theorem without (h : s.Alike L P s') {id : String} (hn : P id none none) :
    (s.without id).Alike L P (s'.without id) :=
  ⟨h.memory, h.world, Session.calls_without h.calls hn⟩

theorem report (h : s.Alike L P s') {answer answer' : Answer α ε} (ha : answer.Alike L answer')
    (notes : List Note) : (s.report answer notes).Alike L P (s'.report answer' notes) := by
  refine ⟨ha, rfl, ?_, h⟩
  rw [Session.told_report, Session.told_report, ha.final]
  split
  · exact .cons ⟨ha, h.memory⟩ .nil
  · exact .nil

/-- An outcome is recorded alike. -/
theorem settle (hL : ∀ f, L f f) (h : s.Alike L P s') (outcome : Outcome α ε) :
    (s.settle c outcome).Alike L P (s'.settle c outcome) := by
  have hs : (Coupling.alike α hL c.world.told_id).Sessions P s s' := Coupling.sessions_alike.2 h
  exact (hs.settle (Coupling.outcomes_refl (fun _ => rfl) (fun _ => rfl) outcome)).alike

end Session.Alike

/-- Where memories are alike only in being equal, clients have been told the same. -/
theorem told_eq_of_alike {told told' : List (Answer α ε × Memory ε)}
    (h : List.Forall₂ (ToldAlike Eq) told told') : told = told' := by
  induction h with
  | nil => rfl
  | cons hfirst _ ih => rw [ih, Prod.ext hfirst.1.eq hfirst.2.eq]

theorem Report.AllAlike.append {early early' late late' : List (Report α ε σ)} {s s' t t' : Session α ε σ}
    (he : Report.AllAlike L P (early, s) (early', s')) (hl : Report.AllAlike L P' (late, t) (late', t')) :
    Report.AllAlike L P' (early ++ late, t) (early' ++ late', t') := by
  refine ⟨?_, ?_, hl.session⟩
  · rw [timelines_append, timelines_append, he.timeline, hl.timeline]
  · rw [toldAll_append, toldAll_append]
    exact List.rel_append he.told hl.told

theorem Report.AllAlike.nil {s s' : Session α ε σ} (h : s.Alike L P s') :
    Report.AllAlike L P (([] : List (Report α ε σ)), s) ([], s') :=
  ⟨rfl, .nil, h⟩

end

/-! ## Actions -/

section

variable {L : Option ε → Option ε → Prop} {P : String → Option (Pending α ε) → Option (Pending α ε) → Prop}

/-- Sessions that are alike stay alike, also if the second one leaves out what is done to calls under names
that do not matter, as long as they are never polled. -/
theorem alike_performAll (hL : ∀ f, L f f) {hidden : String → Bool}
    (hF : ∀ id, hidden id = true → ∀ p p', P id p p') (actions : List (Action α ε)) {s s' : Session α ε σ}
    (hids : ∀ id ∈ Action.idsAll actions, hidden id = false → P id = Eq)
    (hpolled : ∀ id ∈ Action.polledAll actions, hidden id = false) (h : s.Alike L P s') :
    Report.AllAlike L P (Session.performAll c move actions s)
      (Session.performAll c move (Action.bareAll hidden actions) s') := by
  let k := Coupling.alike (c := c) α hL c.world.told_id
  have hmove : k.Moves move move := fun m _ _ hw => congrArg (move m) hw
  have hactions : k.AllActions P actions (Action.bareAll hidden actions) :=
    Coupling.allActions_bare (fun _ => rfl) (fun _ => rfl) hF actions
      (fun id hid hn => (hids id hid hn).trans Coupling.waits_alike.symm) hpolled
  exact (Coupling.coupled_performAll hmove actions hactions (Coupling.sessions_alike.2 h)).alike

/-- Sessions that are alike stay alike through actions that speak of no name under which they differ. -/
theorem Session.Alike.performAll (hL : ∀ f, L f f) {s s' : Session α ε σ} (h : s.Alike L P s')
    (actions : List (Action α ε)) (hids : ∀ id ∈ Action.idsAll actions, P id = Eq) :
    Report.AllAlike L P (Session.performAll c move actions s) (Session.performAll c move actions s') := by
  have hbare : Action.bareAll (fun _ => false) actions = actions :=
    Action.bareAll_eq_self actions fun _ _ => rfl
  have hall : Report.AllAlike L P (Session.performAll c move actions s)
      (Session.performAll c move (Action.bareAll (fun _ => false) actions) s') :=
    alike_performAll hL nofun actions (fun id hid _ => hids id hid) (fun _ _ => rfl) h
  rwa [hbare] at hall

/-! ## A call that waits in one of two sessions -/

/-- The session `t` is `s` without the call under a name. -/
structure Session.Less (id : String) (s t : Session α ε σ) : Prop where
  memory : t.memory = s.memory
  world : t.world = s.world
  gone : t.pending? id = none
  others : ∀ other, other ≠ id → t.pending? other = s.pending? other

theorem Session.less_without (session : Session α ε σ) (id : String) : session.Less id (session.without id) :=
  ⟨rfl, rfl, session.pending?_without_self id, fun _ ho => session.pending?_without_of_ne ho⟩

theorem Session.less_without_withCall (session : Session α ε σ) (id : String) (pending : Pending α ε) :
    session.Less id ((session.withCall id pending).without id) :=
  ⟨rfl, rfl, pending?_without_self _ id, fun _ ho =>
    (pending?_without_of_ne _ ho).trans (session.pending?_withCall_of_ne pending ho)⟩

/-- Under one name a call waits in the first session and none in the second; under any other the same
waits in both. -/
def Waiting (id : String) (pending : Pending α ε) (other : String) (p p' : Option (Pending α ε)) : Prop :=
  if other = id then p = some pending ∧ p' = none else p = p'

theorem waiting_of_ne {id other : String} (pending : Pending α ε) (h : other ≠ id) :
    Waiting id pending other = Eq := by
  funext p p'
  exact if_neg h

theorem waiting_self {id : String} {pending : Pending α ε} {p p' : Option (Pending α ε)} :
    Waiting id pending id p p' ↔ p = some pending ∧ p' = none := by
  unfold Waiting
  rw [if_pos rfl]

theorem Session.Alike.waiting {s s' t : Session α ε σ} {id : String} (h : s.Alike L (fun _ => Eq) s')
    (hless : s'.Less id t) (pending : Pending α ε) : (s.withCall id pending).Alike L (Waiting id pending) t := by
  refine ⟨by rw [hless.memory]; exact h.memory, by rw [hless.world]; exact h.world, fun other => ?_⟩
  by_cases ho : other = id
  · rw [ho]
    exact waiting_self.2 ⟨pending?_withCall_self _ _ _, hless.gone⟩
  · rw [waiting_of_ne pending ho, hless.others other ho, s.pending?_withCall_of_ne pending ho]
    exact h.calls other

/-- Once the call is gone the sessions are alike. -/
theorem Session.Alike.less {s s' t : Session α ε σ} {id : String} {pending : Pending α ε}
    (h : s.Alike L (Waiting id pending) s') (hless : s.Less id t) : t.Alike L (fun _ => Eq) s' := by
  refine ⟨by rw [hless.memory]; exact h.memory, by rw [hless.world]; exact h.world, fun other => ?_⟩
  have hcalls := h.calls other
  by_cases ho : other = id
  · rw [ho] at hcalls ⊢
    rw [hless.gone, (waiting_self.1 hcalls).2]
  · rw [hless.others other ho]
    rwa [waiting_of_ne pending ho] at hcalls

/-- Actions that do not speak of the name go on alike in both sessions, and the call goes on to wait. -/
theorem Session.Alike.performAll_waiting (hL : ∀ f, L f f) {s s' : Session α ε σ} {id : String}
    {pending : Pending α ε} (h : s.Alike L (Waiting id pending) s') (actions : List (Action α ε))
    (hids : id ∉ Action.idsAll actions) :
    Report.AllAlike L (Waiting id pending) (Session.performAll c move actions s)
      (Session.performAll c move actions s') ∧
      (Session.performAll c move actions s).2.pending? id = some pending := by
  have hall : Report.AllAlike L (Waiting id pending) (Session.performAll c move actions s)
      (Session.performAll c move actions s') :=
    h.performAll hL actions fun other ho => waiting_of_ne pending (by rintro rfl; exact hids ho)
  exact ⟨hall, (waiting_self.1 (hall.session.calls id)).1⟩

end

end CircuitBreaker
