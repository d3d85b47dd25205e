/-
Two circuit breakers next to each other. They have the same settings, and a coupling says what else may
differ between them: what the clocks show, as long as the same time lies between any two readings; the
counts of failures outside the closed state; failures and values of operations; and what surrounds them.
Circuit breakers that are coupled stay so in every call. They move to states of the same kinds, run the same
listeners, log the same lines but for counts, and answer the same but for what may differ; and so it is in
whole runs.
-/
import CircuitBreaker.Proofs.Run
import Mathlib.Data.List.Forall2

namespace CircuitBreaker

variable {α α' β β' γ γ' ε ε' σ σ' : Type} {c : Circuit σ} {c' : Circuit σ'}

/-! ## Couplings -/

/-- What may differ between two circuit breakers with the same settings: each relation tells what may stand
in the second one in the place of something in the first one. -/
structure Coupling (α α' ε ε' : Type) {σ σ' : Type} (c : Circuit σ) (c' : Circuit σ') where
  instants : Instant → Instant → Prop
  times : Timestamp → Timestamp → Prop
  /-- Counts of failures outside the closed state. Where it is closed they do not differ. -/
  counts : UInt32 → UInt32 → Prop
  failures : ε → ε' → Prop
  /-- The failures observed last. -/
  last : Option ε → Option ε' → Prop
  values : α → α' → Prop
  worlds : σ → σ' → Prop
  settings : c.settings = c'.settings
  since : ∀ {now now' entered entered'}, instants now now' → instants entered entered' →
    now.since entered = now'.since entered'
  counts_refl : ∀ n, counts n n
  last_none : last none none
  last_some : ∀ {e e'}, failures e e' → last (some e) (some e')
  now : ∀ {a b}, worlds a b → instants (c.world.now a).1 (c'.world.now b).1 ∧
    worlds (c.world.now a).2 (c'.world.now b).2
  wall : ∀ {a b}, worlds a b → times (c.world.wall a).1 (c'.world.wall b).1 ∧
    worlds (c.world.wall a).2 (c'.world.wall b).2
  notify : ∀ kind {a b}, worlds a b → (c.world.notify kind a).1 = (c'.world.notify kind b).1 ∧
    worlds (c.world.notify kind a).2 (c'.world.notify kind b).2

/-- A circuit breaker next to itself, where nothing differs. -/
def Coupling.same (α ε : Type) (c : Circuit σ) : Coupling α α ε ε c c where
  instants := Eq
  times := Eq
  counts := Eq
  failures := Eq
  last := Eq
  values := Eq
  worlds := Eq
  settings := rfl
  since := by
    rintro _ _ _ _ rfl rfl
    rfl
  counts_refl _ := rfl
  last_none := rfl
  last_some := congrArg some
  now := by
    rintro a _ rfl
    exact ⟨rfl, rfl⟩
  wall := by
    rintro a _ rfl
    exact ⟨rfl, rfl⟩
  notify kind := by
    rintro a _ rfl
    exact ⟨rfl, rfl⟩

/-- The results are values that `R` relates, or the same panic. -/
inductive ResultAlike (R : α → β → Prop) : Except String α → Except String β → Prop
  | value {a b} (h : R a b) : ResultAlike R (.ok a) (.ok b)
  | panic (text) : ResultAlike R (.error text) (.error text)

theorem ResultAlike.map_eq {R : α → β → Prop} {f : α → γ} {g : β → γ} (hR : ∀ a b, R a b → f a = g b)
    {result : Except String α} {result' : Except String β} (h : ResultAlike R result result') :
    result.map f = result'.map g := by
  cases h with
  | value h => exact congrArg Except.ok (hR _ _ h)
  | panic text => rfl

/-- What is the same of elements that may stand for each other is the same of lists of them. -/
theorem map_eq_of_forall₂ {R : α → β → Prop} {f : α → γ} {g : β → γ} (hR : ∀ a b, R a b → f a = g b)
    {l : List α} {l' : List β} (h : List.Forall₂ R l l') : l.map f = l'.map g := by
  have hmap : List.Forall₂ Eq (l.map f) (l'.map g) := List.rel_map hR h
  rwa [List.forall₂_eq_eq_eq] at hmap

theorem eq_of_optionRel {R : β → β → Prop} (hR : ∀ a b, R a b → a = b) {b b' : Option β}
    (h : Option.Rel R b b') : b = b' := by
  cases h with
  | none => rfl
  | some h => rw [hR _ _ h]

namespace Coupling

section

variable (k : Coupling α α' ε ε' c c')

inductive States : State → State → Prop
  | closed : States .closed .closed
  | halfOpen : States .halfOpen .halfOpen
  | opened {entered entered' wall wall'} (he : k.instants entered entered') (hw : k.times wall wall') :
      States (.opened entered wall) (.opened entered' wall')

structure Memories (memory : Memory ε) (memory' : Memory ε') : Prop where
  state : k.States memory.state memory'.state
  failures : k.counts memory.failures memory'.failures
  counted : memory.state = .closed → memory.failures = memory'.failures
  last : k.last memory.lastFailure memory'.lastFailure

/-- The same is noted, but for the count in the line of an opening. -/
inductive Notes : Note → Note → Prop
  | same (n) : Notes n n
  | opening (source) {n n'} (h : k.counts n n') :
      Notes (.logged (.opening source n)) (.logged (.opening source n'))

structure Rejections (r : Rejection ε) (r' : Rejection ε') : Prop where
  name : r.name = r'.name
  remaining : r.remaining = r'.remaining
  last : k.last r.lastFailure r'.lastFailure

/-- The snapshots are the same but for the count, the times, and whether a failure has been observed last,
which each tells of one of two failures that may stand for each other. -/
structure Snapshots (s s' : Snapshot) : Prop where
  rest : { s with
    failures := s'.failures
    openedAt := s'.openedAt
    hasLastFailure := s'.hasLastFailure
    capturedAt := s'.capturedAt } = s'
  failures : k.counts s.failures s'.failures
  openedAt : Option.Rel k.times s.openedAt s'.openedAt
  last : ∃ f f', k.last f f' ∧ s.hasLastFailure = f.isSome ∧ s'.hasLastFailure = f'.isSome
  capturedAt : k.times s.capturedAt s'.capturedAt

inductive Answers : Answer α ε → Answer α' ε' → Prop
  | succeeded {a a'} (h : k.values a a') : Answers (.succeeded a) (.succeeded a')
  | failed {e e'} (h : k.failures e e') : Answers (.refused (.failed e)) (.refused (.failed e'))
  | rejected {r r'} (h : k.Rejections r r') : Answers (.refused (.rejected r)) (.refused (.rejected r'))
  | panicked (text) : Answers (.panicked text) (.panicked text)
  | kind (kind) : Answers (.kind kind) (.kind kind)
  | truth (value) : Answers (.truth value) (.truth value)
  | snapshot {s s'} (h : k.Snapshots s s') : Answers (.snapshot s) (.snapshot s')
  | done : Answers .done .done
  | repeated : Answers .repeated .repeated
  | prepared (replaced) : Answers (.prepared replaced) (.prepared replaced)
  | waiting : Answers .waiting .waiting
  | resolved : Answers .resolved .resolved
  | abandoned : Answers .abandoned .abandoned
  | unknownCall : Answers .unknownCall .unknownCall

/-- Outcomes of operations that end without a panic: both values, or both failures. -/
inductive Results : Except ε α → Except ε' α' → Prop
  | ok {a a'} (h : k.values a a') : Results (.ok a) (.ok a')
  | error {e e'} (h : k.failures e e') : Results (.error e) (.error e')

structure Endings (R : β → β' → Prop) (ended : Ended ε σ β) (ended' : Ended ε' σ' β') : Prop where
  result : ResultAlike R ended.result ended'.result
  memory : k.Memories ended.memory ended'.memory
  world : k.worlds ended.world ended'.world
  notes : List.Forall₂ k.Notes ended.notes ended'.notes

/-- The calls end coupled wherever they start coupled. -/
def Calls (R : β → β' → Prop) (call : Call ε σ β) (call' : Call ε' σ' β') : Prop :=
  ∀ memory memory' world world', k.Memories memory memory' → k.worlds world world' →
    k.Endings R (call memory world) (call' memory' world')

inductive Turns : Turn α ε → Turn α' ε' → Prop
  | admission (attempt form) : Turns (.admission attempt form) (.admission attempt form)
  | recording (attempt) {o o'} (h : k.Results o o') : Turns (.recording attempt o) (.recording attempt o')
  | kind : Turns .kind .kind
  | snapshot : Turns .snapshot .snapshot
  | forceOpen : Turns .forceOpen .forceOpen
  | forceClose : Turns .forceClose .forceClose

/-- Turns that may stand for each other, in surroundings that may. -/
def Events (event : Turn α ε × σ) (event' : Turn α' ε' × σ') : Prop :=
  k.Turns event.1 event'.1 ∧ k.worlds event.2 event'.2

structure Steps (s : Step c α ε) (s' : Step c' α' ε') : Prop where
  turn : k.Turns s.turn s'.turn
  memory : k.Memories s.memory s'.memory
  world : k.worlds s.world s'.world
  ended : k.Endings k.Answers s.ended s'.ended

end

variable {k : Coupling α α' ε ε' c c'} {R : β → β' → Prop} {S : γ → γ' → Prop}

/-! ## States -/

section

variable {state state' : State}

theorem States.kind (h : k.States state state') : state.kind = state'.kind := by
  cases h <;> rfl

/-- Where clocks show the same, states are the same. -/
theorem States.eq (hi : ∀ a b, k.instants a b → a = b) (ht : ∀ a b, k.times a b → a = b)
    (h : k.States state state') : state = state' := by
  cases h with
  | closed | halfOpen => rfl
  | opened he hw => rw [hi _ _ he, ht _ _ hw]

theorem states_refl (hi : ∀ a, k.instants a a) (ht : ∀ a, k.times a a) (state : State) : k.States state state := by
  cases state with
  | closed => exact .closed
  | halfOpen => exact .halfOpen
  | opened entered wall => exact .opened (hi entered) (ht wall)

theorem States.admits (h : k.States state state') : state.admits = state'.admits := by
  cases h <;> rfl

theorem States.openedAt (h : k.States state state') : Option.Rel k.times state.openedAt state'.openedAt := by
  cases h with
  | closed | halfOpen => exact .none
  | opened he hw => exact .some hw

theorem States.refresh (h : k.States state state') {now now' : Instant} (hn : k.instants now now')
    (cooldown : Duration) : Option.Rel k.States (state.refresh now cooldown) (state'.refresh now' cooldown) := by
  cases h with
  | closed | halfOpen => exact .none
  | opened he hw =>
    rw [State.refresh, State.refresh, k.since hn he]
    split
    · exact .some .halfOpen
    · exact .none

theorem States.remaining (h : k.States state state') {now now' : Instant} (hn : k.instants now now')
    (cooldown : Duration) : state.remaining now cooldown = state'.remaining now' cooldown := by
  cases h with
  | closed | halfOpen => rfl
  | opened he hw => rw [State.remaining, State.remaining, k.since hn he]

theorem States.onSuccess (h : k.States state state') : Option.Rel k.States state.onSuccess state'.onSuccess := by
  cases h with
  | halfOpen => exact .some .closed
  | closed | opened => exact .none

end

section

variable {memory : Memory ε} {memory' : Memory ε'}

theorem Memories.install (h : k.Memories memory memory') {next next' : State} (hn : k.States next next') :
    k.Memories (memory.install next) (memory'.install next') := by
  cases hn with
  | closed => exact ⟨.closed, k.counts_refl 0, fun _ => rfl, h.last⟩
  | halfOpen => exact ⟨.halfOpen, h.failures, nofun, h.last⟩
  | opened he hw => exact ⟨.opened he hw, h.failures, nofun, h.last⟩

/-- A failure that is stored is counted in both closed states, and leads to states that may stand for each
other. -/
theorem Memories.onFailure (h : k.Memories memory memory') {now now' : Instant} {wall wall' : Timestamp}
    (hn : k.instants now now') (hw : k.times wall wall') (threshold : UInt32) :
    Option.Rel k.States (memory.state.onFailure memory.failures threshold now wall).2
      (memory'.state.onFailure memory'.failures threshold now' wall').2 := by
  obtain ⟨state, failures, last⟩ := memory
  obtain ⟨state', failures', last'⟩ := memory'
  obtain ⟨hstate, -, hcounted, -⟩ := h
  cases hstate with
  | halfOpen => exact .some (.opened hn hw)
  | opened => exact .none
  | closed =>
    -- where failures are counted the counts are the same, so that both reach the threshold or none does
    obtain rfl : failures = failures' := hcounted rfl
    show Option.Rel _ (if _ then _ else _) (if _ then _ else _)
    split
    · exact .some (.opened hn hw)
    · exact .none

theorem Memories.count (h : k.Memories memory memory') {e : ε} {e' : ε'} (he : k.failures e e') :
    k.Memories
      { memory with lastFailure := some e, failures := memory.state.countAfter memory.failures }
      { memory' with lastFailure := some e', failures := memory'.state.countAfter memory'.failures } := by
  obtain ⟨state, failures, last⟩ := memory
  obtain ⟨state', failures', last'⟩ := memory'
  obtain ⟨hstate, hfailures, hcounted, -⟩ := h
  cases hstate with
  | halfOpen => exact ⟨.halfOpen, hfailures, nofun, k.last_some he⟩
  | opened he' hw => exact ⟨.opened he' hw, hfailures, nofun, k.last_some he⟩
  | closed =>
    obtain rfl : failures = failures' := hcounted rfl
    exact ⟨.closed, k.counts_refl _, fun _ => rfl, k.last_some he⟩

end

/-! ## Where less may differ -/

/-- Where counts are the same, so is what is noted. -/
theorem notes_eq (hc : ∀ n n', k.counts n n' → n = n') {notes notes' : List Note}
    (h : List.Forall₂ k.Notes notes notes') : notes = notes' := by
  have hsame : List.Forall₂ Eq notes notes' := by
    refine h.imp fun n n' hn => ?_
    cases hn with
    | same => rfl
    | opening source h => rw [hc _ _ h]
  rwa [List.forall₂_eq_eq_eq] at hsame

/-- Where the wall clocks show the same, snapshots tell the same dates. -/
theorem Snapshots.dates (ht : ∀ a b, k.times a b → a = b) {s s' : Snapshot} (h : k.Snapshots s s') :
    s.openedAt = s'.openedAt ∧ s.capturedAt = s'.capturedAt :=
  ⟨eq_of_optionRel ht h.openedAt, ht _ _ h.capturedAt⟩

/-- Where the failures observed last are the same, so are rejections. -/
theorem Rejections.eq {k : Coupling α α' ε ε c c'} (hl : ∀ f f', k.last f f' → f = f') {r r' : Rejection ε}
    (h : k.Rejections r r') : r = r' := by
  obtain ⟨name, last, remaining⟩ := r
  obtain ⟨hname, hremaining, hlast⟩ := h
  obtain rfl : name = _ := hname
  obtain rfl : remaining = _ := hremaining
  obtain rfl : last = _ := hl _ _ hlast
  rfl

/-! ## The parts of calls -/

theorem Endings.preceded {ended : Ended ε σ β} {ended' : Ended ε' σ' β'} (h : k.Endings R ended ended')
    {before before' : List Note} (hb : List.Forall₂ k.Notes before before') :
    k.Endings R (ended.preceded before) (ended'.preceded before') :=
  ⟨h.result, h.memory, h.world, List.rel_append hb h.notes⟩

theorem calls_pure {b : β} {b' : β'} (h : R b b') :
    k.Calls R (pure b : Call ε σ β) (pure b' : Call ε' σ' β') :=
  fun _ _ _ _ hm hw => ⟨.value h, hm, hw, .nil⟩

theorem calls_memory :
    k.Calls k.Memories (Call.memory : Call ε σ (Memory ε)) (Call.memory : Call ε' σ' (Memory ε')) :=
  fun _ _ _ _ hm hw => ⟨.value hm, hm, hw, .nil⟩

theorem calls_update {change : Memory ε → Memory ε} {change' : Memory ε' → Memory ε'}
    (h : ∀ memory memory', k.Memories memory memory' → k.Memories (change memory) (change' memory')) :
    k.Calls Eq (Call.update change : Call ε σ Unit) (Call.update change' : Call ε' σ' Unit) :=
  fun _ _ _ _ hm hw => ⟨.value rfl, h _ _ hm, hw, .nil⟩

theorem calls_now :
    k.Calls k.instants (Call.read c.world.now : Call ε σ Instant) (Call.read c'.world.now : Call ε' σ' Instant) :=
  fun _ _ _ _ hm hw => ⟨.value (k.now hw).1, hm, (k.now hw).2, .nil⟩

theorem calls_wall :
    k.Calls k.times (Call.read c.world.wall : Call ε σ Timestamp) (Call.read c'.world.wall : Call ε' σ' Timestamp) :=
  fun _ _ _ _ hm hw => ⟨.value (k.wall hw).1, hm, (k.wall hw).2, .nil⟩

theorem calls_note {n n' : Note} (h : k.Notes n n') :
    k.Calls Eq (Call.note n : Call ε σ Unit) (Call.note n' : Call ε' σ' Unit) :=
  fun _ _ _ _ hm hw => ⟨.value rfl, hm, hw, .cons h .nil⟩

theorem calls_notify (kind : Kind) :
    k.Calls Eq (Call.notify c.world kind : Call ε σ Unit) (Call.notify c'.world kind : Call ε' σ' Unit) := by
  intro _ _ world world' hm hw
  obtain ⟨htext, hafter⟩ := k.notify kind hw
  refine ⟨?_, hm, hafter, .cons (.same _) .nil⟩
  show ResultAlike Eq (Call.panicIf (c.world.notify kind world).1) (Call.panicIf (c'.world.notify kind world').1)
  rw [← htext]
  cases (c.world.notify kind world).1 with
  | none => exact .value rfl
  | some text => exact .panic text

/-- Calls in a row end coupled if each of them does. -/
theorem Calls.bind {call : Call ε σ β} {call' : Call ε' σ' β'} {next : β → Call ε σ γ}
    {next' : β' → Call ε' σ' γ'} (hc : k.Calls R call call')
    (hn : ∀ b b', R b b' → k.Calls S (next b) (next' b')) : k.Calls S (call >>= next) (call' >>= next') := by
  intro memory memory' world world' hm hw
  have h := hc memory memory' world world' hm hw
  have hresult := h.result
  cases hr : (call memory world).result with
  | error text =>
    have hr' : (call' memory' world').result = .error text := by
      rw [hr] at hresult
      generalize (call' memory' world').result = result' at hresult ⊢
      cases hresult
      rfl
    rw [Call.bind_panic hr, Call.bind_panic hr']
    exact ⟨.panic text, h.memory, h.world, h.notes⟩
  | ok b =>
    obtain ⟨b', hr', hb⟩ : ∃ b', (call' memory' world').result = .ok b' ∧ R b b' := by
      rw [hr] at hresult
      generalize (call' memory' world').result = result' at hresult ⊢
      cases hresult with
      | value hb => exact ⟨_, rfl, hb⟩
    rw [Call.bind_ok hr, Call.bind_ok hr']
    exact (hn b b' hb _ _ _ _ h.memory h.world).preceded h.notes

/-! ## The calls on a circuit breaker -/

theorem calls_transition {next next' : State} (hn : k.States next next') :
    k.Calls Eq (c.transition next : Call ε σ Unit) (c'.transition next' : Call ε' σ' Unit) := by
  refine calls_memory.bind fun before before' hb => ?_
  refine (calls_update fun _ _ hm => hm.install hn).bind fun _ _ _ => ?_
  refine calls_memory.bind fun after after' ha => (calls_note ?_).bind fun _ _ _ => ?_
  · rw [hb.state.kind, hn.kind]
    -- only the line of an opening tells the count
    cases next'.kind with
    | opened => exact .opening _ ha.failures
    | halfOpen | closed => exact .same _
  · rw [hn.kind]
    exact calls_notify _

theorem calls_transition? {target target' : Option State} (h : Option.Rel k.States target target') :
    k.Calls Eq (c.transition? target : Call ε σ Unit) (c'.transition? target' : Call ε' σ' Unit) := by
  cases h with
  | none => exact calls_pure rfl
  | some h => exact calls_transition h

theorem calls_refresh : k.Calls Eq (c.refresh : Call ε σ Unit) (c'.refresh : Call ε' σ' Unit) := by
  refine calls_now.bind fun now now' hn => calls_memory.bind fun memory memory' hm => ?_
  rw [← k.settings]
  exact calls_transition? (hm.state.refresh hn _)

theorem calls_decision :
    k.Calls (Option.Rel k.Rejections) (c.decision : Call ε σ _) (c'.decision : Call ε' σ' _) := by
  refine calls_memory.bind fun memory memory' hm => ?_
  rw [hm.state.admits]
  split
  · refine (calls_update fun _ _ hm => ?_).bind fun _ _ _ => calls_pure .none
    exact ⟨hm.state, hm.failures, hm.counted, k.last_none⟩
  · refine calls_now.bind fun now now' hn => calls_memory.bind fun memory memory' hm => ?_
    rw [← k.settings, hm.state.remaining hn]
    exact (calls_note (.same _)).bind fun _ _ _ => calls_pure (.some ⟨rfl, rfl, hm.last⟩)

theorem calls_admission :
    k.Calls (Option.Rel k.Rejections) (c.admission : Call ε σ _) (c'.admission : Call ε' σ' _) :=
  calls_refresh.bind fun _ _ _ => calls_decision

theorem calls_recordSuccess : k.Calls Eq (c.recordSuccess : Call ε σ Unit) (c'.recordSuccess : Call ε' σ' Unit) :=
  calls_memory.bind fun _ _ hm => calls_transition? hm.state.onSuccess

theorem calls_recordFailure {e : ε} {e' : ε'} (he : k.failures e e') :
    k.Calls Eq (c.recordFailure e : Call ε σ Unit) (c'.recordFailure e' : Call ε' σ' Unit) := by
  intro memory memory' world world' hm hw
  obtain ⟨hnow, hthen⟩ := k.now hw
  obtain ⟨hwall, hafter⟩ := k.wall hthen
  rw [c.recordFailure_apply, c'.recordFailure_apply, ← k.settings]
  exact calls_transition? (hm.onFailure hnow hwall _) _ _ _ _ (hm.count he) hafter

/-- The answer to an attempt is the outcome of its operation. -/
theorem calls_record {outcome : Except ε α} {outcome' : Except ε' α'} (h : k.Results outcome outcome') :
    k.Calls (fun answer answer' => k.Answers (Session.answerOf answer) (Session.answerOf answer'))
      (c.record outcome : Call ε σ _) (c'.record outcome' : Call ε' σ' _) := by
  intro memory memory' world world' hm hw
  have hlate : List.Forall₂ k.Notes memory.state.lateNotes memory'.state.lateNotes := by
    unfold State.lateNotes
    rw [hm.state.admits]
    split
    · exact .nil
    · exact .cons (.same _) .nil
  cases h with
  | ok ha =>
    rw [c.record_ok_apply, c'.record_ok_apply]
    refine Endings.preceded ?_ hlate
    exact calls_recordSuccess.bind (fun _ _ _ => calls_pure (.succeeded ha)) _ _ _ _ hm hw
  | error he =>
    rw [c.record_error_apply, c'.record_error_apply]
    refine Endings.preceded ?_ hlate
    exact (calls_recordFailure he).bind (fun _ _ _ => calls_pure (.failed he)) _ _ _ _ hm hw

theorem calls_kind : k.Calls Eq (c.kind : Call ε σ Kind) (c'.kind : Call ε' σ' Kind) :=
  calls_refresh.bind fun _ _ _ => calls_memory.bind fun _ _ hm => calls_pure hm.state.kind

theorem calls_forceOpen : k.Calls Eq (c.forceOpen : Call ε σ Unit) (c'.forceOpen : Call ε' σ' Unit) :=
  calls_now.bind fun _ _ hn => calls_wall.bind fun _ _ hw => calls_transition (.opened hn hw)

theorem calls_forceClose : k.Calls Eq (c.forceClose : Call ε σ Unit) (c'.forceClose : Call ε' σ' Unit) :=
  calls_transition .closed

theorem calls_view : k.Calls k.Snapshots (c.view : Call ε σ Snapshot) (c'.view : Call ε' σ' Snapshot) := by
  refine calls_memory.bind fun memory memory' hm => calls_now.bind fun now now' hn => ?_
  refine calls_wall.bind fun wall wall' hw => ?_
  rw [← k.settings, hm.state.remaining hn, hm.state.kind]
  exact calls_pure ⟨rfl, hm.failures, hm.state.openedAt, ⟨_, _, hm.last, rfl, rfl⟩, hw⟩

theorem calls_snapshot : k.Calls k.Snapshots (c.snapshot : Call ε σ Snapshot) (c'.snapshot : Call ε' σ' Snapshot) :=
  calls_refresh.bind fun _ _ _ => calls_view

/-! ## Turns and runs -/

theorem calls_respond (form : Form) {reply : Option (Rejection ε)} {reply' : Option (Rejection ε')}
    (h : Option.Rel k.Rejections reply reply') :
    k.Calls k.Answers (Turn.respond form reply : Call ε σ (Answer α ε))
      (Turn.respond form reply' : Call ε' σ' (Answer α' ε')) := by
  cases h with
  | some h => exact calls_pure (.rejected h)
  | none =>
    cases form with
    | running => exact (calls_note (.same _)).bind fun _ _ _ => calls_pure .waiting
    | constant => exact calls_pure .waiting

theorem calls_turn {turn : Turn α ε} {turn' : Turn α' ε'} (h : k.Turns turn turn') :
    k.Calls k.Answers (turn.call c) (turn'.call c') := by
  cases h with
  | admission attempt form => exact calls_admission.bind fun _ _ h => calls_respond form h
  | recording attempt h => exact (calls_record h).bind fun _ _ h => calls_pure h
  | kind => exact calls_kind.bind fun _ _ h => h ▸ calls_pure (.kind _)
  | snapshot => exact calls_snapshot.bind fun _ _ h => calls_pure (.snapshot h)
  | forceOpen => exact calls_forceOpen.bind fun _ _ _ => calls_pure .done
  | forceClose => exact calls_forceClose.bind fun _ _ _ => calls_pure .done

theorem calls_conclude {turn : Turn α ε} {turn' : Turn α' ε'} (h : k.Turns turn turn') :
    k.Calls k.Answers (c.conclude turn) (c'.conclude turn') := by
  cases h with
  | admission attempt form => exact calls_decision.bind fun _ _ h => calls_respond form h
  | recording attempt h =>
    cases h with
    | ok ha => exact calls_pure (.succeeded ha)
    | error he => exact calls_pure (.failed he)
  | kind =>
    refine calls_memory.bind fun memory memory' hm => ?_
    rw [hm.state.kind]
    exact calls_pure (.kind _)
  | snapshot => exact calls_view.bind fun _ _ h => calls_pure (.snapshot h)
  | forceOpen | forceClose => exact calls_pure .done

/-- Turns may stand for themselves if failures and values may. -/
theorem turns_refl {k : Coupling α α ε ε c c'} (hv : ∀ a, k.values a a) (hf : ∀ e, k.failures e e)
    (turn : Turn α ε) : k.Turns turn turn := by
  cases turn with
  | admission attempt form => exact .admission attempt form
  | recording attempt outcome =>
    cases outcome with
    | ok a => exact .recording attempt (.ok (hv a))
    | error e => exact .recording attempt (.error (hf e))
  | kind => exact .kind
  | snapshot => exact .snapshot
  | forceOpen => exact .forceOpen
  | forceClose => exact .forceClose

theorem Turns.eq {k : Coupling α α ε ε c c'} (hv : ∀ a b, k.values a b → a = b)
    (hf : ∀ e e', k.failures e e' → e = e') {turn turn' : Turn α ε} (h : k.Turns turn turn') : turn = turn' := by
  cases h with
  | recording attempt h =>
    cases h with
    | ok h => rw [hv _ _ h]
    | error h => rw [hf _ _ h]
  | _ => rfl

/-- Runs that start coupled go on so, as long as the events do. -/
theorem coupled_steps {events : List (Turn α ε × σ)} {events' : List (Turn α' ε' × σ')}
    (h : List.Forall₂ k.Events events events') {memory : Memory ε} {memory' : Memory ε'}
    (hm : k.Memories memory memory') :
    List.Forall₂ k.Steps (c.steps memory events) (c'.steps memory' events') ∧
      k.Memories (c.after memory events) (c'.after memory' events') := by
  induction h generalizing memory memory' with
  | nil => exact ⟨.nil, hm⟩
  | cons hevent _ ih =>
    obtain ⟨hturn, hworld⟩ := hevent
    have hended := calls_turn hturn _ _ _ _ hm hworld
    obtain ⟨hsteps, hafter⟩ := ih hended.memory
    exact ⟨.cons ⟨hturn, hm, hworld, hended⟩ hsteps, hafter⟩

end Coupling

end CircuitBreaker
