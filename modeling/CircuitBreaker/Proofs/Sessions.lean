/-
Sessions as runs. Whatever clients do in a session, with operations that make calls of their own,
calls that wait while others go on or are given up, and moves of the clock, the circuit breaker goes
through an orderly run, in which the same happens in the same order and in the same surroundings.
-/
import CircuitBreaker.Proofs.Run
import Mathlib.Data.Fintype.EquivFin
import Mathlib.Logic.Relation

namespace CircuitBreaker

variable {α ε σ β γ : Type} {c : Circuit σ} {move : ClockMove → σ → σ} {first : σ}

/-! ## Attempts in flight -/

theorem Step.attempt?_of_admits {s : Step c α ε} {attempt : Nat} (h : s.Admits attempt) :
    s.turn.attempt? = some attempt := by
  obtain ⟨⟨form, ht⟩, -⟩ := h
  rw [ht]; rfl

theorem Step.attempt?_of_records {s : Step c α ε} {attempt : Nat} (h : s.Records attempt) :
    s.turn.attempt? = some attempt := by
  obtain ⟨outcome, ht⟩ := h
  rw [ht]; rfl

/-- There is always an attempt that has not been heard of. -/
theorem exists_fresh (steps : List (Step c α ε)) : ∃ attempt, ∀ s ∈ steps, s.turn.attempt? ≠ some attempt := by
  obtain ⟨attempt, h⟩ :=
    Infinite.exists_notMem_finset (steps.filterMap fun s => s.turn.attempt?).toFinset
  refine ⟨attempt, fun s hs ha => h ?_⟩
  exact List.mem_toFinset.2 (List.mem_filterMap.2 ⟨s, hs, ha⟩)

theorem InFlight.concat {steps : List (Step c α ε)} {attempt : Nat} (h : InFlight steps attempt)
    {s : Step c α ε} (hs : ¬ s.Records attempt) : InFlight (steps ++ [s]) attempt := by
  obtain ⟨⟨t, ht, ha⟩, hr⟩ := h
  refine ⟨⟨t, List.mem_append_left _ ht, ha⟩, List.forall_mem_append.2 ⟨hr, ?_⟩⟩
  exact List.forall_mem_singleton.2 hs

theorem inFlight_concat_of_admits {steps : List (Step c α ε)} {s : Step c α ε} {attempt : Nat}
    (hf : ∀ t ∈ steps, t.turn.attempt? ≠ some attempt) (ha : s.Admits attempt) :
    InFlight (steps ++ [s]) attempt := by
  refine ⟨⟨s, List.mem_append_right _ (List.mem_singleton_self s), ha⟩, List.forall_mem_append.2 ⟨?_, ?_⟩⟩
  · exact fun t ht hr => hf t ht (Step.attempt?_of_records hr)
  · obtain ⟨⟨form, ht⟩, -⟩ := ha
    rintro t ht' ⟨outcome, hr⟩
    rw [List.mem_singleton.1 ht', ht] at hr
    cases hr

/-! ## Surroundings on the way -/

/-- Surroundings that come from others by moves of the clock. -/
def Drifts (move : ClockMove → σ → σ) : σ → σ → Prop :=
  Relation.ReflTransGen fun world world' => ∃ m, world' = move m world

/-- The surroundings are handed on through the steps, from the first to the last: what a step leaves
surrounds the next one, but for moves of the clock. -/
def HandsOn (move : ClockMove → σ → σ) : σ → List (Step c α ε) → σ → Prop
  | first, [], last => Drifts move first last
  | first, s :: steps, last => Drifts move first s.world ∧ HandsOn move s.ended.world steps last

theorem Drifts.refl {world : σ} : Drifts move world world := Relation.ReflTransGen.refl

theorem Drifts.single (m : ClockMove) (world : σ) : Drifts move world (move m world) :=
  Relation.ReflTransGen.single ⟨m, rfl⟩

theorem HandsOn.drift : ∀ {steps : List (Step c α ε)} {first last last' : σ},
    HandsOn move first steps last → Drifts move last last' → HandsOn move first steps last'
  | [], _, _, _, h, hd => Relation.ReflTransGen.trans h hd
  | _ :: _, _, _, _, h, hd => ⟨h.1, h.2.drift hd⟩

theorem HandsOn.concat : ∀ {steps : List (Step c α ε)} {first : σ} {s : Step c α ε},
    HandsOn move first steps s.world → HandsOn move first (steps ++ [s]) s.ended.world
  | [], _, _, h => ⟨h, .refl⟩
  | _ :: _, _, _, h => ⟨h.1, h.2.concat⟩

/-! ## What a session has behind it -/

/-- How many calls have been admitted and wait for their outcome. -/
def Session.admitted (session : Session α ε σ) : Nat := session.calls.countP fun call => call.2.admitted

/-- A run leads from the first surroundings to a session in which some operations run, and told is all
that happened in it. For every operation that runs and every admitted call that waits there is an
attempt in flight. -/
structure Follows (events : List (Turn α ε × σ)) (attempts : List Nat) (c : Circuit σ)
    (move : ClockMove → σ → σ) (first : σ) (session : Session α ε σ) (running : Nat) (told : List Note) :
    Prop where
  orderly : Orderly (c.steps .initial events)
  memory : session.memory = c.after .initial events
  world : HandsOn move first (c.steps .initial events) session.world
  told : told = (c.steps .initial events).flatMap Step.notes
  nodup : attempts.Nodup
  inFlight : ∀ attempt ∈ attempts, InFlight (c.steps .initial events) attempt
  enough : running + session.admitted ≤ attempts.length

/-- There is a run that leads to the session. -/
def Traced (c : Circuit σ) (move : ClockMove → σ → σ) (first : σ) (session : Session α ε σ)
    (running : Nat) (told : List Note) : Prop :=
  ∃ events attempts, Follows events attempts c move first session running told

/-- The session after a call that ended so. -/
def Session.having (session : Session α ε σ) (ended : Ended ε σ β) : Session α ε σ :=
  { session with memory := ended.memory, world := ended.world }

/-- The run goes on with a turn that comes in order. -/
theorem Follows.concat {events : List (Turn α ε × σ)} {attempts : List Nat} {session : Session α ε σ}
    {running : Nat} {told : List Note} (h : Follows events attempts c move first session running told)
    (turn : Turn α ε) {attempts' : List Nat} {running' : Nat}
    (ho : (⟨turn, session.memory, session.world⟩ : Step c α ε).InOrder (c.steps .initial events))
    (hd : attempts'.Nodup)
    (hf : ∀ attempt ∈ attempts', InFlight
      (c.steps .initial events ++ [⟨turn, session.memory, session.world⟩]) attempt)
    (hn : running' + session.admitted ≤ attempts'.length) :
    Traced c move first (session.having (turn.call c session.memory session.world)) running'
      (told ++ (turn.call c session.memory session.world).notes) := by
  have hs : c.steps .initial (events ++ [(turn, session.world)]) =
      c.steps .initial events ++ [⟨turn, session.memory, session.world⟩] := by
    rw [c.steps_concat, h.memory]
  refine ⟨events ++ [(turn, session.world)], attempts', ?_, ?_, ?_, ?_, hd, ?_, hn⟩
  · rw [hs]; exact orderly_concat.2 ⟨h.orderly, ho⟩
  · rw [c.after_concat, ← h.memory]; rfl
  · rw [hs]; exact HandsOn.concat (s := ⟨turn, session.memory, session.world⟩) h.world
  · rw [hs, List.flatMap_append, List.flatMap_singleton, h.told]; rfl
  · rw [hs]; exact hf

namespace Traced

variable {session : Session α ε σ} {running : Nat} {told : List Note}

theorem start : Traced c move first (Session.start first : Session α ε σ) 0 [] :=
  ⟨[], [], orderly_nil, rfl, Drifts.refl, rfl, List.nodup_nil, nofun, Nat.le_refl 0⟩

/-- Between the turns the clock may be moved. Of the calls that wait only the number of admitted ones
matters. -/
theorem rearrange (h : Traced c move first session running told) (session' : Session α ε σ) {running' : Nat}
    (hm : session'.memory = session.memory) (hw : Drifts move session.world session'.world)
    (hn : running' + session'.admitted ≤ running + session.admitted) :
    Traced c move first session' running' told := by
  obtain ⟨events, attempts, h⟩ := h
  exact ⟨events, attempts, h.orderly, hm.trans h.memory, h.world.drift hw, h.told, h.nodup, h.inFlight,
    hn.trans h.enough⟩

theorem turn (h : Traced c move first session running told) {turn : Turn α ε} (ht : turn.attempt? = none) :
    Traced c move first (session.having (turn.call c session.memory session.world)) running
      (told ++ (turn.call c session.memory session.world).notes) := by
  obtain ⟨events, attempts, h⟩ := h
  refine h.concat turn ?_ h.nodup (fun n hn => (h.inFlight n hn).concat fun hr => ?_) h.enough
  · cases turn with
    | admission | recording => cases ht
    | _ => trivial
  · rw [show turn.attempt? = some n from Step.attempt?_of_records hr] at ht
    cases ht

/-- An attempt asks for admission. If it is admitted its operation runs. -/
theorem admission (h : Traced c move first session running told) (form : Form) :
    ∃ attempt,
      let ended := (Turn.admission attempt form : Turn α ε).call c session.memory session.world
      Traced c move first (session.having ended) running (told ++ ended.notes) ∧
      (ended.result = .ok .waiting →
        Traced c move first (session.having ended) (running + 1) (told ++ ended.notes)) := by
  obtain ⟨events, attempts, h⟩ := h
  obtain ⟨attempt, hfresh⟩ := exists_fresh (c.steps .initial events)
  -- those in flight stay so, whether or not the new one joins them
  have hold : ∀ n ∈ attempts, InFlight
      (c.steps .initial events ++ [⟨.admission attempt form, session.memory, session.world⟩]) n :=
    fun n hn => (h.inFlight n hn).concat (by rintro ⟨outcome, hr⟩; cases hr)
  refine ⟨attempt, h.concat _ hfresh h.nodup hold h.enough, fun hw => ?_⟩
  have hnew : attempt ∉ attempts := by
    intro hmem
    obtain ⟨⟨t, ht, ha⟩, -⟩ := h.inFlight attempt hmem
    exact hfresh t ht (Step.attempt?_of_admits ha)
  refine h.concat _ hfresh (List.nodup_cons.2 ⟨hnew, h.nodup⟩) (List.forall_mem_cons.2 ⟨?_, hold⟩) ?_
  · exact inFlight_concat_of_admits hfresh ⟨⟨form, rfl⟩, hw⟩
  · have := h.enough
    rw [List.length_cons]
    omega

/-- An operation that runs ends, and its outcome is recorded. -/
theorem recording (h : Traced c move first session (running + 1) told) (outcome : Except ε α) :
    ∃ attempt,
      let ended := (Turn.recording attempt outcome : Turn α ε).call c session.memory session.world
      Traced c move first (session.having ended) running (told ++ ended.notes) := by
  obtain ⟨events, attempts, h⟩ := h
  cases attempts with
  | nil => exact absurd h.enough (by rw [List.length_nil]; omega)
  | cons attempt attempts =>
    -- which of the attempts in flight it is makes no difference to what happens
    obtain ⟨hnew, hd⟩ := List.nodup_cons.1 h.nodup
    obtain ⟨hfirst, hrest⟩ := List.forall_mem_cons.1 h.inFlight
    refine ⟨attempt, h.concat _ hfirst hd (fun n hn => (hrest n hn).concat ?_) ?_⟩
    · rintro ⟨outcome', hr⟩
      cases hr
      exact hnew hn
    · have := h.enough
      rw [List.length_cons] at this
      omega

end Traced

/-! ## Calls of a session -/

theorem Call.bind_pure_apply (call : Call ε σ β) (f : β → γ) (memory : Memory ε) (world : σ) :
    (call >>= fun b => pure (f b)) memory world =
      ⟨(call memory world).result.map f, (call memory world).memory, (call memory world).world,
        (call memory world).notes⟩ := by
  cases h : (call memory world).result with
  | error text => rw [bind_panic h]; rfl
  | ok b => rw [bind_ok h]; simp [Ended.preceded, Except.map]

/-- What happens when an admitted operation starts. -/
def Form.notes : Form → List Note
  | running => [.started]
  | constant => []

theorem Turn.respond_none (form : Form) (memory : Memory ε) (world : σ) :
    (respond form none : Call ε σ (Answer α ε)) memory world = ⟨.ok .waiting, memory, world, form.notes⟩ := by
  cases form <;> rfl

theorem Turn.call_admission_of_eq {memory : Memory ε} {world : σ} (attempt : Nat) (form : Form)
    (h : (c.admission memory world).result = .ok none) :
    (admission attempt form : Turn α ε).call c memory world =
      ⟨.ok .waiting, (c.admission memory world).memory, (c.admission memory world).world,
        (c.admission memory world).notes ++ form.notes⟩ := by
  show (c.admission >>= respond form) memory world = _
  rw [Call.bind_ok h, respond_none]
  rfl

theorem Turn.call_admission_of_ne {memory : Memory ε} {world : σ} (attempt : Nat) (form : Form)
    (h : (c.admission memory world).result ≠ .ok none) :
    ∃ result, (admission attempt form : Turn α ε).call c memory world =
      ⟨result, (c.admission memory world).memory, (c.admission memory world).world,
        (c.admission memory world).notes⟩ := by
  show ∃ result, (c.admission >>= respond form) memory world = _
  cases hr : (c.admission memory world).result with
  | error text => exact ⟨_, Call.bind_panic hr⟩
  | ok reply =>
    cases reply with
    | none => exact absurd hr h
    | some r => exact ⟨_, by rw [Call.bind_ok hr]; simp [respond, Ended.preceded]; rfl⟩

/-- What an attempt asks for in its turn is admission. -/
theorem Step.admission_of_admits {s : Step c α ε} {attempt : Nat} {form : Form}
    (ht : s.turn = .admission attempt form) (ha : s.Admits attempt) :
    (c.admission s.memory s.world).result = .ok none := by
  have hw : s.ended.result = .ok .waiting := ha.2
  have hcall : s.ended = (c.admission >>= Turn.respond form) s.memory s.world := by
    rw [ended, ht]; rfl
  rw [hcall] at hw
  cases hr : (c.admission s.memory s.world).result with
  | error text => rw [Call.bind_panic hr] at hw; cases hw
  | ok reply =>
    cases reply with
    | none => rfl
    | some r => rw [Call.bind_ok hr] at hw; cases hw

theorem Report.timelines_append : ∀ early late : List (Report α ε σ),
    timelines (early ++ late) = timelines early ++ timelines late
  | [], late => by simp [timelines]
  | report :: early, late => by
    rw [List.cons_append, timelines, timelines, timelines_append early late, List.append_assoc]

namespace Session

theorem call_eq (session : Session α ε σ) (call : Call ε σ β) :
    session.call call =
      (call session.memory session.world, session.having (call session.memory session.world)) := rfl

theorem timeline_ask (session : Session α ε σ) (call : Call ε σ β) (answer : β → Answer α ε) :
    (session.ask call answer).timeline = (call session.memory session.world).notes := by
  simp [ask, report, Session.call, Report.timeline, Report.timelines]

theorem session_ask (session : Session α ε σ) (call : Call ε σ β) (answer : β → Answer α ε) :
    (session.ask call answer).session = session.having (call session.memory session.world) := rfl

@[simp] theorem timeline_report (session : Session α ε σ) (answer : Answer α ε) (notes : List Note) :
    (session.report answer notes).timeline = notes := by
  simp [report, Report.timeline, Report.timelines]

@[simp] theorem timeline_preceded (before : List Note) (report : Report α ε σ) :
    (preceded before report).timeline = before ++ report.timeline := by
  cases report
  simp [preceded, Report.timeline]

@[simp] theorem session_preceded (before : List Note) (report : Report α ε σ) :
    (preceded before report).session = report.session := by
  cases report; rfl

@[simp] theorem answer_preceded (before : List Note) (report : Report α ε σ) :
    (preceded before report).answer = report.answer := by
  cases report; rfl

@[simp] theorem nested_preceded (before : List Note) (report : Report α ε σ) :
    (preceded before report).nested = report.nested := by
  cases report; rfl

/-- Nothing is nested in the end of an operation. -/
theorem nested_settle (c : Circuit σ) (session : Session α ε σ) (outcome : Outcome α ε) :
    (session.settle c outcome).nested = [] := by
  cases outcome <;> rfl

theorem timeline_settle (c : Circuit σ) (session : Session α ε σ) (outcome : Outcome α ε) :
    (session.settle c outcome).timeline = (session.settle c outcome).notes := by
  cases outcome <;>
    simp [settle, ask, report, Report.timeline, Report.timelines, Report.notes]

theorem admitted_without_le (session : Session α ε σ) (id : String) :
    (session.without id).admitted ≤ session.admitted :=
  List.Sublist.countP_le List.filter_sublist

/-- An admitted call that is forgotten counts no more. -/
theorem admitted_without_lt {session : Session α ε σ} {id : String} {pending : Pending α ε}
    (h : session.pending? id = some pending) (ha : pending.admitted = true) :
    (session.without id).admitted + 1 ≤ session.admitted := by
  obtain ⟨call, hc, rfl⟩ := Option.map_eq_some_iff.1 h
  unfold admitted without
  rw [List.countP_eq_countP_filter_add session.calls _ fun call => decide (call.1 ≠ id)]
  refine Nat.add_le_add_left (List.countP_pos_iff.2 ⟨call, ?_, ha⟩) _
  exact List.mem_filter.2 ⟨List.mem_of_find?_eq_some hc, by simpa using List.find?_some hc⟩

theorem admitted_withCall (session : Session α ε σ) (id : String) (pending : Pending α ε) :
    (session.withCall id pending).admitted =
      (session.without id).admitted + if pending.admitted = true then 1 else 0 :=
  List.countP_cons

theorem admitted_withCall_le {session : Session α ε σ} {id : String} {pending : Pending α ε}
    (h : session.pending? id = some pending) (outcome : Option (Outcome α ε)) :
    (session.withCall id { pending with outcome := outcome }).admitted ≤ session.admitted := by
  rw [admitted_withCall]
  split
  · next ha => exact admitted_without_lt h ha
  · exact session.admitted_without_le id

end Session

namespace Traced

variable {session : Session α ε σ} {running : Nat} {told : List Note}

theorem reported {notes : List Note} (h : Traced c move first session running (told ++ notes))
    (answer : Answer α ε) :
    Traced c move first (session.report answer notes).session running
      (told ++ (session.report answer notes).timeline) := by
  rw [Session.timeline_report]
  exact h

/-- Nothing happens, and no call gets admitted. -/
theorem silent (h : Traced c move first session running told) (session' : Session α ε σ)
    (hm : session'.memory = session.memory) (hw : Drifts move session.world session'.world)
    (hn : session'.admitted ≤ session.admitted) (answer : Answer α ε) :
    Traced c move first (session'.report answer []).session running
      (told ++ (session'.report answer []).timeline) :=
  reported (by rw [List.append_nil]; exact h.rearrange session' hm hw (Nat.add_le_add_left hn _)) answer

theorem ask (h : Traced c move first session running told) (turn : Turn α ε) (ht : turn.attempt? = none)
    {call : Call ε σ β} {give : β → Answer α ε} (hc : turn.call c = call >>= fun b => pure (give b))
    (answer : β → Answer α ε) :
    Traced c move first (session.ask call answer).session running
      (told ++ (session.ask call answer).timeline) := by
  have hturn := h.turn ht
  rw [hc, Call.bind_pure_apply] at hturn
  rw [session.timeline_ask, session.session_ask]
  exact hturn

theorem settle (h : Traced c move first session (running + 1) told) (outcome : Outcome α ε) :
    Traced c move first (session.settle c outcome).session running
      (told ++ (session.settle c outcome).timeline) := by
  have hrecord : ∀ outcome : Except ε α,
      Traced c move first (session.ask (c.record outcome) Session.answerOf).session running
        (told ++ (session.ask (c.record outcome) Session.answerOf).timeline) := by
    intro outcome
    obtain ⟨attempt, h⟩ := h.recording outcome
    have hcall : (Turn.recording attempt outcome).call c =
      c.record outcome >>= fun r => pure (Session.answerOf r) := rfl
    rw [hcall, Call.bind_pure_apply] at h
    rw [session.timeline_ask, session.session_ask]
    exact h
  cases outcome with
  | ok a => exact hrecord (.ok a)
  | failure e => exact hrecord (.error e)
  | panic text =>
    have hleft : Traced c move first session running told := h.rearrange session rfl .refl (by omega)
    exact hleft.silent session rfl .refl (Nat.le_refl _) _

/-- An admitted call goes on: its operation ends, or waits for its outcome. -/
theorem proceed {id : String} (h : Traced c move first (session.without id) (running + 1) told)
    (pending : Pending α ε) :
    Traced c move first (session.proceed c id pending).session running
      (told ++ (session.proceed c id pending).timeline) := by
  unfold Session.proceed
  split
  · have hwait : Traced c move first (session.withCall id { pending with admitted := true }) running told := by
      refine h.rearrange _ rfl .refl ?_
      rw [Session.admitted_withCall, if_pos rfl]
      omega
    exact hwait.silent _ rfl .refl (Nat.le_refl _) _
  · exact h.settle _

theorem refused (h : Traced c move first session running told) {reply : Except String (Option (Rejection ε))}
    (hr : (c.admission session.memory session.world).result = reply) (hn : reply ≠ .ok none) :
    Traced c move first (session.having (c.admission session.memory session.world)) running
      (told ++ (c.admission session.memory session.world).notes) := by
  obtain ⟨attempt, h, -⟩ := h.admission .constant
  obtain ⟨result, hcall⟩ := Turn.call_admission_of_ne attempt .constant (hr ▸ hn)
  rw [hcall] at h
  exact h

theorem admitted (h : Traced c move first session running told) (form : Form)
    (hr : (c.admission session.memory session.world).result = .ok none) :
    Traced c move first (session.having (c.admission session.memory session.world)) (running + 1)
      (told ++ ((c.admission session.memory session.world).notes ++ form.notes)) := by
  obtain ⟨attempt, -, h⟩ := h.admission form
  rw [Turn.call_admission_of_eq attempt form hr] at h
  exact h rfl

theorem poll (h : Traced c move first session running told) (id : String) :
    Traced c move first (session.poll c id).session running (told ++ (session.poll c id).timeline) := by
  unfold Session.poll
  split
  · exact h.silent session rfl .refl (Nat.le_refl _) _
  · next pending hp =>
    split
    · next ha =>
      have hlt := Session.admitted_without_lt hp ha
      exact proceed (h.rearrange _ rfl .refl (by omega)) pending
    · -- in each case but a wait the call is forgotten; it had not been admitted
      have hforget {running told}
          (h : Traced c move first (session.having (c.admission session.memory session.world)) running told) :
          Traced c move first ((session.having (c.admission session.memory session.world)).without id)
            running told :=
        h.rearrange _ rfl .refl (Nat.add_le_add_left (Session.admitted_without_le _ id) _)
      rw [Session.call_eq]
      dsimp only
      split
      · next hr => exact reported (hforget (h.refused hr nofun)) _
      · next hr => exact reported (hforget (h.refused hr nofun)) _
      · next hr =>
        rw [Session.timeline_preceded, Session.session_preceded, ← List.append_assoc]
        exact proceed (hforget (h.admitted .running hr)) pending

theorem passes {pass : Session α ε σ → List (Report α ε σ) × Session α ε σ}
    (hp : ∀ {session told}, Traced c move first session running told →
      Traced c move first (pass session).2 running (told ++ Report.timelines (pass session).1)) :
    ∀ (times : Nat) {session : Session α ε σ} {told : List Note}, Traced c move first session running told →
      Traced c move first (Session.passes pass times session).2 running
        (told ++ Report.timelines (Session.passes pass times session).1)
  | 0, _, _, h => by simpa [Session.passes, Report.timelines] using h
  | times + 1, _, _, h => by
    have := passes hp times (hp h)
    rwa [List.append_assoc, ← Report.timelines_append] at this

end Traced

/-! ## Actions -/

mutual

theorem traced_perform : ∀ (action : Action α ε) {session : Session α ε σ}
    {running : Nat} {told : List Note}, Traced c move first session running told →
    Traced c move first (Session.perform c move action session).session running
      (told ++ (Session.perform c move action session).timeline)
  | .attempt form outcome during, session, running, told, h => by
    rw [Session.perform, Session.call_eq]
    dsimp only
    split
    · next hr => exact Traced.reported (h.refused hr nofun) _
    · next hr => exact Traced.reported (h.refused hr nofun) _
    · next hr =>
      have hstart := h.admitted form hr
      cases form with
      | constant =>
        have hend := hstart.settle outcome
        rw [Session.timeline_preceded, Session.session_preceded]
        simpa [Form.notes] using hend
      | running =>
        -- the actions of the operation come between the two turns of the attempt
        have hend := (traced_performAll during hstart).settle outcome
        rw [Session.timeline_settle] at hend
        simpa [Report.timeline, Report.session, Form.notes] using hend
  | .kind, session, running, told, h => h.ask .kind rfl rfl _
  | .isKind kind, session, running, told, h => h.ask .kind rfl rfl _
  | .forceOpen, session, running, told, h => h.ask .forceOpen rfl rfl _
  | .forceClose, session, running, told, h => h.ask .forceClose rfl rfl _
  | .snapshot, session, running, told, h => h.ask .snapshot rfl rfl _
  | .look, session, running, told, h => h.silent session rfl .refl (Nat.le_refl _) _
  | .move m, session, running, told, h =>
    h.silent { session with world := move m session.world } rfl (.single m session.world) (Nat.le_refl _) _
  | .repeated times actions, session, running, told, h => by
    have hall := Traced.passes (fun h => traced_performAll actions h) times h
    rw [Session.perform, Report.timeline, List.nil_append, List.append_nil]
    exact hall
  | .prepare id, session, running, told, h =>
    h.silent (session.withCall id ⟨false, none⟩) rfl .refl (session.admitted_without_le id) _
  | .poll id, session, running, told, h => h.poll id
  | .resolve id outcome, session, running, told, h => by
    rw [Session.perform]
    split
    · next hp => exact h.silent (session.withCall id _) rfl .refl (Session.admitted_withCall_le hp _) _
    · exact h.silent session rfl .refl (Nat.le_refl _) _
  | .abandon id, session, running, told, h => by
    rw [Session.perform]
    split
    · exact h.silent (session.without id) rfl .refl (session.admitted_without_le id) _
    · exact h.silent session rfl .refl (Nat.le_refl _) _

theorem traced_performAll : ∀ (actions : List (Action α ε))
    {session : Session α ε σ} {running : Nat} {told : List Note}, Traced c move first session running told →
    Traced c move first (Session.performAll c move actions session).2 running
      (told ++ Report.timelines (Session.performAll c move actions session).1)
  | [], session, running, told, h => by
    rw [Session.performAll, Report.timelines, List.append_nil]
    exact h
  | action :: actions, session, running, told, h => by
    have hrest := traced_performAll actions (traced_perform action h)
    rw [Session.performAll, Report.timelines, ← List.append_assoc]
    exact hrest

end

/-- What clients do in a session, with nested attempts, calls that wait, and moves of the clock, is an
orderly run of the circuit breaker: in the run the same happens in the same order, it leaves the same
memory, and its turns hand on the surroundings from the start to the end of the session. -/
theorem orderly_run_of_session (c : Circuit σ) (move : ClockMove → σ → σ) (actions : List (Action α ε))
    (world : σ) :
    ∃ events : List (Turn α ε × σ), Orderly (c.steps .initial events) ∧
      (Session.performAll c move actions (Session.start world)).2.memory = c.after .initial events ∧
      HandsOn move world (c.steps .initial events)
        (Session.performAll c move actions (Session.start world)).2.world ∧
      Report.timelines (Session.performAll c move actions (Session.start world)).1 =
        (c.steps .initial events).flatMap Step.notes := by
  have hstart : Traced c move world (Session.start world : Session α ε σ) 0 [] := Traced.start
  obtain ⟨events, _, h⟩ := traced_performAll actions hstart
  exact ⟨events, h.orderly, h.memory, h.world, h.told⟩

end CircuitBreaker
