/-
Queries that nobody notices. A circuit breaker whose cooldown has passed turns half-open only when
the next call refreshes its state. A query in between makes it do so earlier; but where calls are made
one after the other, and the clock does not go backwards, no later answer tells of that.
-/
import CircuitBreaker.Proofs.Alike
import CircuitBreaker.Proofs.Ending
import CircuitBreaker.Proofs.Transitions

namespace CircuitBreaker

variable {α ε σ τ : Type} {c : Circuit σ} {shown : σ → τ}

/-! ## Surroundings that listeners leave alone -/

/-- What `shown` shows of the surroundings tells what the clocks read, and listeners neither panic nor
change it. -/
structure World.Calm (w : World σ) (shown : σ → τ) : Prop where
  now : ∀ {a b}, shown a = shown b →
    (w.now a).1 = (w.now b).1 ∧ shown (w.now a).2 = shown (w.now b).2
  wall : ∀ {a b}, shown a = shown b →
    (w.wall a).1 = (w.wall b).1 ∧ shown (w.wall a).2 = shown (w.wall b).2
  returns : ∀ kind world, (w.notify kind world).1 = none
  keeps : ∀ kind world, shown (w.notify kind world).2 = shown world

theorem World.Calm.told {w : World σ} (h : w.Calm shown) : w.Told shown := by
  refine ⟨h.now, h.wall, fun kind a b hw => ⟨?_, ?_⟩⟩
  · rw [h.returns, h.returns]
  · rw [h.keeps, h.keeps]
    exact hw

/-- No listener panics in the move of a turn, and what is shown after it is what was shown when the
clocks had been read. -/
theorem World.Calm.heard (h : c.world.Calm shown) (memory : Memory ε) (world : σ) (turn : Turn α ε) :
    (c.heard memory world turn).1 = none ∧
      shown (c.heard memory world turn).2 = shown (c.clocked world turn) := by
  unfold Circuit.heard
  cases c.target memory world turn with
  | none => exact ⟨rfl, rfl⟩
  | some next => exact ⟨h.returns _ _, h.keeps _ _⟩

theorem World.Calm.clocked (h : c.world.Calm shown) (turn : Turn α ε) {a b : σ} (hw : shown a = shown b) :
    shown (c.clocked a turn) = shown (c.clocked b turn) := by
  have hnow := (h.now hw).2
  have hwall := (h.wall hnow).2
  cases turn with
  | recording attempt outcome =>
    cases outcome with
    | ok a => exact hw
    | error failure => exact hwall
  | forceOpen => exact hwall
  | forceClose => exact hw
  | admission | kind | snapshot => exact hnow

/-! ## One turn -/

/-- Turns that move to the same memory end alike. -/
theorem Turn.call_eq_of_moved (h : c.world.Calm shown) (turn : Turn α ε) {memory memory' : Memory ε} {a b : σ}
    (hw : shown a = shown b) (hm : c.moved memory a turn = c.moved memory' b turn) :
    (turn.call c memory a).result = (turn.call c memory' b).result ∧
      (turn.call c memory a).memory = (turn.call c memory' b).memory := by
  obtain ⟨hquiet, hshown⟩ := h.heard memory a turn
  obtain ⟨hquiet', hshown'⟩ := h.heard memory' b turn
  have hclocked := h.clocked (c := c) turn hw
  have hend : (c.conclude turn (c.moved memory a turn) (c.heard memory a turn).2).Alike Eq shown
      (Answer.Alike Eq) (c.conclude turn (c.moved memory' b turn) (c.heard memory' b turn).2) := by
    refine alike_conclude (fun _ => rfl) h.told turn _ _ _ _ ⟨congrArg _ hm, congrArg _ hm⟩ ?_
    rw [hshown, hshown', hclocked]
  rw [call_of_returns c hquiet, call_of_returns c hquiet']
  exact ⟨hend.result.eq, hend.memory.eq⟩

/-- An open state whose cooldown has passed turns half-open at a refresh. -/
theorem State.refresh_of_passed {now earlier entered : Instant} {wall : Timestamp} {cooldown : Duration}
    (hc : cooldown ≤ earlier.since entered) (hn : earlier.nanos ≤ now.nanos) :
    (State.opened entered wall).refresh now cooldown = some .halfOpen := by
  have hpassed : cooldown ≤ now.since entered := by
    simp only [Duration.le_def, Instant.nanos_since] at hc ⊢
    omega
  exact if_pos hpassed

theorem State.passed_of_refresh {now : Instant} {cooldown : Duration} {state next : State}
    (h : state.refresh now cooldown = some next) :
    ∃ entered wall, state = .opened entered wall ∧ cooldown ≤ now.since entered ∧ next = .halfOpen := by
  cases state with
  | closed => cases h
  | halfOpen => cases h
  | opened entered wall =>
    rw [refresh] at h
    split at h
    · next hc => cases h; exact ⟨entered, wall, rfl, hc, rfl⟩
    · cases h

theorem Circuit.target_of_refreshes {turn : Turn α ε} (hr : turn.refreshes = true) (memory : Memory ε)
    (world : σ) :
    c.target memory world turn = memory.state.refresh (c.world.now world).1 c.settings.cooldown := by
  cases turn with
  | admission | kind | snapshot => rfl
  | recording | forceOpen | forceClose => cases hr

/-- What is remembered of a circuit that has turned half-open ahead of time. -/
def Memory.promoted (memory : Memory ε) : Memory ε := { memory with state := .halfOpen }

/-- A circuit that has turned half-open ahead of time moves to the same memory, unless an outcome is
recorded in it. -/
theorem Circuit.moved_promoted (h : c.world.Calm shown) {turn : Turn α ε} {memory : Memory ε} {a b : σ}
    {entered earlier : Instant} {wall : Timestamp} (hs : memory.state = .opened entered wall)
    (hc : c.settings.cooldown ≤ earlier.since entered)
    (hn : turn.refreshes = true → earlier.nanos ≤ (c.world.now a).1.nanos) (ht : turn.records? = none)
    (hw : shown a = shown b) :
    c.moved memory a turn = c.moved memory.promoted b turn := by
  obtain ⟨hnow, hthen⟩ := h.now hw
  have hwall := (h.wall hthen).1
  -- a refresh catches up, and by hand the state is replaced
  have hpass : turn.refreshes = true → memory.state.refresh (c.world.now a).1 c.settings.cooldown = some .halfOpen :=
    fun hr => by rw [hs]; exact State.refresh_of_passed hc (hn hr)
  obtain ⟨state, failures, last⟩ := memory
  cases turn with
  | recording => cases ht
  | admission attempt form => simp only [moved, target, hpass rfl]; rfl
  | kind => simp only [moved, target, hpass rfl]; rfl
  | snapshot => simp only [moved, target, hpass rfl]; rfl
  | forceOpen => simp only [moved, target, wallAfterNow, hnow, hwall]; rfl
  | forceClose => rfl

/-! ## Queries in between -/

/-- The calls that tell of a circuit breaker and ask nothing of it. -/
inductive Query
  | kind
  | snapshot

def Query.turn : Query → Turn α ε
  | kind => .kind
  | snapshot => .snapshot

/-- What comes next in two runs that differ in queries: a call, which is made in both, in surroundings
of its own in each; or a query, which only the second one makes. -/
inductive Entry (α ε σ : Type)
  | call (turn : Turn α ε) (bare busy : σ)
  | query (query : Query) (busy : σ)

namespace Entry

/-- What comes next in the run without the queries, if anything does. -/
def bare? : Entry α ε σ → Option (Turn α ε × σ)
  | call turn bare _ => some (turn, bare)
  | query _ _ => none

/-- What comes next in the run with the queries. -/
def busy : Entry α ε σ → Turn α ε × σ
  | call turn _ busy => (turn, busy)
  | query q busy => (q.turn, busy)

def turn (entry : Entry α ε σ) : Turn α ε := entry.busy.1

end Entry

/-- The run without the queries. -/
def bareRun (script : List (Entry α ε σ)) : List (Turn α ε × σ) := script.filterMap Entry.bare?

/-- The run with the queries. -/
def busyRun (script : List (Entry α ε σ)) : List (Turn α ε × σ) := script.map Entry.busy

theorem bareRun_concat_call (script : List (Entry α ε σ)) (turn : Turn α ε) (bare busy : σ) :
    bareRun (script ++ [.call turn bare busy]) = bareRun script ++ [(turn, bare)] := by
  simp [bareRun, Entry.bare?]

theorem bareRun_concat_query (script : List (Entry α ε σ)) (query : Query) (busy : σ) :
    bareRun (script ++ [.query query busy]) = bareRun script := by
  simp [bareRun, Entry.bare?]

theorem busyRun_concat (script : List (Entry α ε σ)) (entry : Entry α ε σ) :
    busyRun (script ++ [entry]) = busyRun script ++ [entry.busy] := by
  simp [busyRun]

/-- Every attempt is over before anything else is called: its outcome is recorded right after its
admission, or never. -/
def Sequential (turns : List (Turn α ε)) : Prop :=
  ∀ before turn after, turns = before ++ turn :: after →
    turn.records? = none ∨ turn.records? = before.getLast?.bind Turn.asks?

instance (turns : List (Turn α ε)) : Decidable (Sequential turns) :=
  decidable_of_iff _ (forall_splits_iff
    (P := fun before turn => turn.records? = none ∨ turn.records? = before.getLast?.bind Turn.asks?)).symm

/-- Queries are made between the calls of a sequential run. The calls see the same readings with the
queries as without them. The clock never goes backwards, of which only those readings matter that a
state is refreshed at. -/
structure Interspersed (c : Circuit σ) (shown : σ → τ) (script : List (Entry α ε σ)) : Prop where
  sequential : Sequential (script.map Entry.turn)
  seen : ∀ turn bare busy, Entry.call turn bare busy ∈ script → shown bare = shown busy
  forwards : (c.steps .initial (busyRun script)).Pairwise fun s t =>
    s.turn.refreshes = true → t.turn.refreshes = true → s.now.nanos ≤ t.now.nanos

theorem Interspersed.of_append {before after : List (Entry α ε σ)}
    (h : Interspersed c shown (before ++ after)) : Interspersed c shown before := by
  refine ⟨fun early turn late he => ?_, fun turn bare busy hm => ?_, ?_⟩
  · refine h.sequential early turn (late ++ after.map Entry.turn) ?_
    rw [List.map_append, he, List.append_assoc, List.cons_append]
  · exact h.seen turn bare busy (List.mem_append_left _ hm)
  · have hf := h.forwards
    rw [busyRun, List.map_append, c.steps_append] at hf
    exact (List.pairwise_append.1 hf).1

/-! ## Two runs next to each other -/

/-- With the queries the circuit remembers the same as without, and the same listeners have run, if it
has not been opened or closed by hand. -/
structure Abreast (c : Circuit σ) (script : List (Entry α ε σ)) : Prop where
  memory : c.after .initial (bareRun script) = c.after .initial (busyRun script)
  told : (∀ entry ∈ script, entry.turn.byHand = false) →
    firings (c.steps .initial (busyRun script)) = firings (c.steps .initial (bareRun script))

/-- With the queries the circuit has turned half-open, in a refresh after the cooldown that is still to
come without them. -/
structure Ahead (c : Circuit σ) (script : List (Entry α ε σ)) : Prop where
  passed : ∃ t ∈ c.steps .initial (busyRun script), t.turn.refreshes = true ∧ ∃ entered wall,
    (c.after .initial (bareRun script)).state = .opened entered wall ∧
      c.settings.cooldown ≤ t.now.since entered
  memory : c.after .initial (busyRun script) = (c.after .initial (bareRun script)).promoted
  told : (∀ entry ∈ script, entry.turn.byHand = false) →
    firings (c.steps .initial (busyRun script)) =
      firings (c.steps .initial (bareRun script)) ++ [.halfOpen]

theorem abreast_nil : Abreast c ([] : List (Entry α ε σ)) := ⟨rfl, fun _ => rfl⟩

section

variable {script : List (Entry α ε σ)} {turn : Turn α ε} {bare busy : σ}

/-- A call is answered the same in both runs, and remembered the same. -/
structure SameCall (c : Circuit σ) (script : List (Entry α ε σ)) (turn : Turn α ε) (bare busy : σ) :
    Prop where
  result : (⟨turn, c.after .initial (bareRun script), bare⟩ : Step c α ε).ended.result =
    (⟨turn, c.after .initial (busyRun script), busy⟩ : Step c α ε).ended.result
  next : (⟨turn, c.after .initial (bareRun script), bare⟩ : Step c α ε).next =
    (⟨turn, c.after .initial (busyRun script), busy⟩ : Step c α ε).next

/-- Where two runs are abreast they stay so in a call. -/
theorem Abreast.call (h : Abreast c script) (hc : c.world.Calm shown) (hw : shown bare = shown busy) :
    SameCall c script turn bare busy ∧ Abreast c (script ++ [.call turn bare busy]) := by
  have hm := h.memory
  have hend := Turn.alike_call (fun _ => rfl) hc.told turn (c.after .initial (bareRun script))
    (c.after .initial (busyRun script)) bare busy ⟨congrArg _ hm, congrArg _ hm⟩ hw
  refine ⟨⟨hend.result.eq, hend.memory.eq⟩, ?_, fun hb => ?_⟩
  · rw [bareRun_concat_call, busyRun_concat, c.after_concat]
    exact hend.memory.eq.trans (c.after_concat _ _ _ _).symm
  · have hfirings := h.told fun entry he => hb entry (List.mem_append_left _ he)
    rw [bareRun_concat_call, busyRun_concat]
    show firings (c.steps _ (_ ++ [(turn, busy)])) = _
    rw [c.steps_concat, c.steps_concat, firings_concat, firings_concat, hfirings, ← Step.fired_notes,
      ← Step.fired_notes]
    exact congrArg (_ ++ fired ·) hend.notes.symm

theorem Turn.refreshes_of_called {turn : Turn α ε} (hb : turn.byHand = false) (ht : turn.records? = none) :
    turn.refreshes = true := by
  cases turn with
  | admission | kind | snapshot => rfl
  | recording => cases ht
  | forceOpen | forceClose => cases hb

/-- In a call that records no outcome the run that was behind catches up. -/
theorem Ahead.call (h : Ahead c script) (hc : c.world.Calm shown) (hw : shown bare = shown busy)
    (ht : turn.records? = none)
    (hf : turn.refreshes = true → ∀ t ∈ c.steps (.initial : Memory ε) (busyRun script),
      t.turn.refreshes = true → t.now.nanos ≤ (c.world.now bare).1.nanos) :
    SameCall c script turn bare busy ∧ Abreast c (script ++ [.call turn bare busy]) := by
  obtain ⟨t, hmem, hr, entered, wall, hs, hpassed⟩ := h.passed
  have hmoved : c.moved (c.after .initial (bareRun script)) bare turn =
      c.moved (c.after .initial (busyRun script)) busy turn := by
    rw [h.memory]
    exact c.moved_promoted hc hs hpassed (fun hr' => hf hr' t hmem hr) ht hw
  obtain ⟨hresult, hnext⟩ := turn.call_eq_of_moved hc hw hmoved
  refine ⟨⟨hresult, hnext⟩, ?_, fun hb => ?_⟩
  · rw [bareRun_concat_call, busyRun_concat, c.after_concat]
    exact hnext.trans (c.after_concat _ _ _ _).symm
  · have hfirings := h.told fun entry he => hb entry (List.mem_append_left _ he)
    have hhand : turn.byHand = false := hb (.call turn bare busy) (List.mem_append_right _ (List.mem_singleton_self _))
    -- only the run that was behind turns half-open in the call
    have hrefresh := Turn.refreshes_of_called hhand ht
    have hlate : c.target (c.after .initial (bareRun script)) bare turn = some .halfOpen := by
      rw [c.target_of_refreshes hrefresh, hs]
      exact State.refresh_of_passed hpassed (hf hrefresh t hmem hr)
    have hearly : c.target (c.after .initial (busyRun script)) busy turn = none := by
      rw [c.target_of_refreshes hrefresh, h.memory]
      rfl
    rw [bareRun_concat_call, busyRun_concat]
    show firings (c.steps _ (_ ++ [(turn, busy)])) = _
    rw [c.steps_concat, c.steps_concat, firings_concat, firings_concat, hfirings, Step.entered?_eq, Step.entered?_eq,
      hlate, hearly]
    simp [State.kind]

theorem Query.refreshes (query : Query) : (query.turn : Turn α ε).refreshes = true := by
  cases query <;> rfl

/-- A query refreshes the state and leaves the rest. -/
theorem Query.next (query : Query) (memory : Memory ε) (world : σ) :
    (⟨query.turn, memory, world⟩ : Step c α ε).next =
      memory.move (memory.state.refresh (c.world.now world).1 c.settings.cooldown) := by
  have hnone : (query.turn : Turn α ε).asks? = none := by cases query <;> rfl
  have hprimed : (query.turn : Turn α ε).primed memory = memory := by cases query <;> rfl
  have hcall := (query.turn : Turn α ε).memory_call c memory world
  rw [Turn.waits_eq_false c hnone, if_neg Bool.false_ne_true, Circuit.moved, hprimed,
    c.target_of_refreshes query.refreshes] at hcall
  exact hcall

/-- What a query adds to the run that makes it. -/
theorem busyRun_query (script : List (Entry α ε σ)) (query : Query) (busy : σ) :
    let memory : Memory ε := c.after .initial (busyRun script)
    let target := memory.state.refresh (c.world.now busy).1 c.settings.cooldown
    let s : Step c α ε := ⟨query.turn, memory, busy⟩
    c.after .initial (busyRun (script ++ [.query query busy])) = memory.move target ∧
      c.steps .initial (busyRun (script ++ [.query query busy])) = c.steps .initial (busyRun script) ++ [s] ∧
      firings (c.steps (.initial : Memory ε) (busyRun script) ++ [s]) =
        firings (c.steps .initial (busyRun script)) ++ (target.map State.kind).toList := by
  intro memory target s
  rw [busyRun_concat]
  refine ⟨(c.after_concat _ _ _ _).trans (query.next memory busy), c.steps_concat _ _ _ _, ?_⟩
  rw [firings_concat, s.entered?_eq]
  exact congrArg (fun t : Option State => _ ++ (t.map State.kind).toList)
    (c.target_of_refreshes query.refreshes memory busy)

/-- A query leaves the runs abreast, or turns the circuit half-open in the run that makes it. -/
theorem Abreast.query (h : Abreast c script) (query : Query) (busy : σ) :
    Abreast c (script ++ [.query query busy]) ∨ Ahead c (script ++ [.query query busy]) := by
  obtain ⟨hafter, hsteps, hadded⟩ := busyRun_query (c := c) script query busy
  cases ht : (c.after (.initial : Memory ε) (busyRun script)).state.refresh (c.world.now busy).1
      c.settings.cooldown with
  | none =>
    rw [ht] at hafter hadded
    refine Or.inl ⟨?_, fun hb => ?_⟩
    · rw [bareRun_concat_query, hafter, h.memory]; rfl
    · rw [bareRun_concat_query, hsteps, hadded, h.told fun entry he => hb entry (List.mem_append_left _ he)]
      exact List.append_nil _
  | some next =>
    obtain ⟨entered, wall, hs, hc, rfl⟩ := State.passed_of_refresh ht
    rw [ht] at hafter hadded
    refine Or.inr ⟨?_, ?_, fun hb => ?_⟩
    · rw [bareRun_concat_query, hsteps, h.memory]
      exact ⟨_, List.mem_append_right _ (List.mem_singleton_self _), query.refreshes, entered, wall, hs, hc⟩
    · rw [bareRun_concat_query, hafter, h.memory]; rfl
    · rw [bareRun_concat_query, hsteps, hadded, h.told fun entry he => hb entry (List.mem_append_left _ he)]
      rfl

/-- Once the circuit is half-open further queries change nothing. -/
theorem Ahead.query (h : Ahead c script) (query : Query) (busy : σ) :
    Ahead c (script ++ [.query query busy]) := by
  obtain ⟨hafter, hsteps, hadded⟩ := busyRun_query (c := c) script query busy
  have ht : (c.after (.initial : Memory ε) (busyRun script)).state.refresh (c.world.now busy).1
      c.settings.cooldown = none := by
    rw [h.memory]; rfl
  rw [ht] at hafter hadded
  refine ⟨?_, ?_, fun hb => ?_⟩
  · obtain ⟨t, hmem, hpassed⟩ := h.passed
    rw [bareRun_concat_query, hsteps]
    exact ⟨t, List.mem_append_left _ hmem, hpassed⟩
  · rw [bareRun_concat_query, hafter]
    exact h.memory
  · rw [bareRun_concat_query, hsteps, hadded, h.told fun entry he => hb entry (List.mem_append_left _ he)]
    exact List.append_nil _

end

/-! ## Whole runs -/

/-- An outcome is recorded right after a call, not after a query. -/
theorem Interspersed.call_of_records {script : List (Entry α ε σ)} {entry : Entry α ε σ}
    (h : Interspersed c shown (script ++ [entry])) (hr : entry.turn.records? ≠ none) :
    ∃ early turn bare busy, script = early ++ [.call turn bare busy] := by
  have hs := (h.sequential (script.map Entry.turn) entry.turn [] (List.map_append)).resolve_left hr
  rcases List.eq_nil_or_concat script with rfl | ⟨early, last, rfl⟩
  · exact absurd hs hr
  · cases last with
    | call turn bare busy => exact ⟨early, turn, bare, busy, List.concat_eq_append⟩
    | query query busy =>
      rw [List.concat_eq_append, List.map_append, List.map_singleton, List.getLast?_concat] at hs
      refine absurd hs ?_
      cases query <;> exact hr

theorem Interspersed.now_le {script : List (Entry α ε σ)} {turn : Turn α ε} {bare busy : σ}
    (h : Interspersed c shown (script ++ [.call turn bare busy])) (hc : c.world.Calm shown)
    (hr : turn.refreshes = true) :
    ∀ t ∈ c.steps (.initial : Memory ε) (busyRun script), t.turn.refreshes = true →
      t.now.nanos ≤ (c.world.now bare).1.nanos := by
  intro t ht htr
  have hw : shown bare = shown busy := h.seen turn bare busy (List.mem_append_right _ (List.mem_singleton_self _))
  have hf := h.forwards
  rw [busyRun_concat] at hf
  have hsteps := c.steps_concat (busyRun script) turn busy (.initial : Memory ε)
  rw [show Entry.busy (.call turn bare busy) = (turn, busy) from rfl, hsteps] at hf
  rw [(hc.now hw).1]
  exact (List.pairwise_append.1 hf).2.2 t ht _ (List.mem_singleton_self _) htr hr

/-- Two runs that differ in queries are abreast, or the one with the queries is ahead; and they are
abreast right after a call. -/
theorem Interspersed.abreast_or_ahead (hc : c.world.Calm shown) {script : List (Entry α ε σ)}
    (h : Interspersed c shown script) :
    (Abreast c script ∨ Ahead c script) ∧
      ∀ early turn bare busy, script = early ++ [.call turn bare busy] →
        SameCall c early turn bare busy ∧ Abreast c script := by
  -- on the end of the script, so that a recording finds how the call before it was made
  induction script using List.reverseRecOn with
  | nil => exact ⟨Or.inl abreast_nil, fun early turn bare busy he => by cases early <;> cases he⟩
  | append_singleton script entry ih =>
    obtain ⟨hstand, hlast⟩ := ih h.of_append
    cases entry with
    | query query busy =>
      refine ⟨?_, fun early turn bare busy he => ?_⟩
      · rcases hstand with habreast | hahead
        · exact habreast.query query busy
        · exact Or.inr (hahead.query query busy)
      · obtain ⟨-, hentry⟩ := List.append_inj' he rfl
        cases hentry
    | call turn bare busy =>
      have hw : shown bare = shown busy :=
        h.seen turn bare busy (List.mem_append_right _ (List.mem_singleton_self _))
      have hcall : SameCall c script turn bare busy ∧ Abreast c (script ++ [.call turn bare busy]) := by
        rcases hstand with habreast | hahead
        · exact habreast.call hc hw
        · by_cases hr : turn.records? = none
          · exact hahead.call hc hw hr fun hr => h.now_le hc hr
          · obtain ⟨early, turn', bare', busy', he⟩ := h.call_of_records hr
            exact (hlast early turn' bare' busy' he).2.call hc hw
      refine ⟨Or.inl hcall.2, fun early turn' bare' busy' he => ?_⟩
      obtain ⟨rfl, hentry⟩ := List.append_inj' he rfl
      cases hentry
      exact hcall

/-- Nobody notices queries. Let queries be made between the calls of a sequential run, where listeners
neither panic nor touch the clocks and the clock never goes backwards. Then every call is answered as it
is without the queries, and leaves the same behind; and at every point of the run the count of failures
and the failure observed last are the same. If the circuit is never opened or closed by hand, then the
same listeners run in the same order, but for the one of the half-open state, which may have run already
at the end. -/
theorem queries_unnoticed (c : Circuit σ) (shown : σ → τ) (hc : c.world.Calm shown)
    (script : List (Entry α ε σ)) (h : Interspersed c shown script) :
    (∀ before turn bare busy after, script = before ++ .call turn bare busy :: after →
      SameCall c before turn bare busy) ∧
    (∀ before after, script = before ++ after →
      let memory : Memory ε := c.after .initial (bareRun before)
      let memory' : Memory ε := c.after .initial (busyRun before)
      memory.failures = memory'.failures ∧ memory.lastFailure = memory'.lastFailure) ∧
    ((∀ entry ∈ script, entry.turn.byHand = false) →
      let told := firings (c.steps (.initial : Memory ε) (bareRun script))
      let told' := firings (c.steps (.initial : Memory ε) (busyRun script))
      told' = told ∨ told' = told ++ [.halfOpen]) := by
  refine ⟨fun before turn bare busy after he => ?_, fun before after he => ?_, fun hb => ?_⟩
  · have hbefore : Interspersed c shown (before ++ [.call turn bare busy]) := by
      rw [he, List.append_cons] at h
      exact h.of_append
    exact ((hbefore.abreast_or_ahead hc).2 before turn bare busy rfl).1
  · have hbefore : Interspersed c shown before := (he ▸ h).of_append
    rcases (hbefore.abreast_or_ahead hc).1 with habreast | hahead
    · exact ⟨congrArg _ habreast.memory, congrArg _ habreast.memory⟩
    · rw [hahead.memory]
      exact ⟨rfl, rfl⟩
  · exact (h.abreast_or_ahead hc).1.imp (·.told hb) (·.told hb)

/-- Where attempts overlap a query is noticed. An attempt that was admitted before the circuit opened
succeeds after the cooldown: too late without the query, and as if it were a probe with it. -/
example :
    let script : List (Entry Unit String Bench) :=
      [.call (.admission 0 .running) (.reading 0) (.reading 0), .call (.admission 1 .running) (.reading 0) (.reading 0),
        .call (.recording 0 (.error "down")) (.reading 0) (.reading 0), .query .kind (.reading 1000000),
        .call (.recording 1 (.ok ())) (.reading 1000000) (.reading 1000000)]
    (Bench.fragile.after (.initial : Memory String) (bareRun script)).state.kind = .opened ∧
      (Bench.fragile.after (.initial : Memory String) (busyRun script)).state.kind = .closed := by
  decide

namespace Bench

theorem calm_fragile : fragile.world.Calm id := by
  refine ⟨?_, ?_, fun kind bench => ?_, fun kind bench => ?_⟩
  · rintro a b rfl; exact ⟨rfl, rfl⟩
  · rintro a b rfl; exact ⟨rfl, rfl⟩
  · cases kind <;> rfl
  · cases kind <;> rfl

/-- A failure opens the circuit, and after the cooldown a probe closes it, with a query before and after
the probe and another one after one more failure. -/
def polled : List (Entry Unit String Bench) :=
  [.call (.admission 0 .running) (reading 0) (reading 0),
    .call (.recording 0 (.error "down")) (reading 0) (reading 0),
    .query .kind (reading 1000000),
    .call (.admission 1 .running) (reading 2000000) (reading 2000000),
    .call (.recording 1 (.ok ())) (reading 2000000) (reading 2000000),
    .query .snapshot (reading 2000000),
    .call (.admission 2 .running) (reading 3000000) (reading 3000000),
    .call (.recording 2 (.error "down")) (reading 3000000) (reading 3000000),
    .query .kind (reading 4000000)]

end Bench

/-- The listener for the half-open state has run once more with the queries. -/
theorem queries_unnoticed_polled :
    Interspersed Bench.fragile id Bench.polled ∧
    (∀ entry ∈ Bench.polled, entry.turn.byHand = false) ∧
    SameCall Bench.fragile (Bench.polled.take 3) (.admission 1 .running) (Bench.reading 2000000)
      (Bench.reading 2000000) ∧
    firings (Bench.fragile.steps (.initial : Memory String) (busyRun Bench.polled)) =
      firings (Bench.fragile.steps (.initial : Memory String) (bareRun Bench.polled)) ++ [.halfOpen] := by
  have h : Interspersed Bench.fragile id Bench.polled := by
    refine ⟨by decide, fun turn bare busy hm => ?_, by decide⟩
    simp only [Bench.polled, List.mem_cons, Entry.call.injEq] at hm
    grind
  have hb : ∀ entry ∈ Bench.polled, entry.turn.byHand = false := by decide
  obtain ⟨hcalls, -, htold⟩ := queries_unnoticed Bench.fragile id Bench.calm_fragile Bench.polled h
  refine ⟨h, hb, hcalls _ _ _ _ _ rfl, (htold hb).resolve_left ?_⟩
  decide

end CircuitBreaker
