/-
The transitions of a run and the listeners that tell of them. Read from the closed state at the
start, a run follows the cycle of the states but where it is opened or closed by hand; each
transition runs the listener of the state that it has just installed, once, and nothing else runs
one. So the listeners alone tell in which kind of state the circuit is. Where a diary is kept of the
listeners as they run, it holds the same.
-/
import CircuitBreaker.Proofs.Ending
import CircuitBreaker.Proofs.Sessions
import Mathlib.Data.List.Chain

namespace CircuitBreaker

/-- The ways of the circuit from one kind of state to another that nobody forces. -/
inductive Kind.Edge : Kind → Kind → Prop
  | trip : Edge .closed .opened
  | promotion : Edge .opened .halfOpen
  | recovery : Edge .halfOpen .closed
  | relapse : Edge .halfOpen .opened

variable {α ε σ : Type} {c : Circuit σ}

/-- The listeners that run in the course of a run, in the order of time. -/
def firings (steps : List (Step c α ε)) : List Kind := fired (steps.flatMap Step.notes)

/-- How a turn that enters a state of some kind may do so. -/
structure Step.Legal (s : Step c α ε) (kind : Kind) : Prop where
  edge : s.turn.byHand = false → s.memory.state.kind.Edge kind
  again : kind = s.memory.state.kind →
    s.turn = .forceOpen ∧ kind = .opened ∨ s.turn = .forceClose ∧ kind = .closed
  before : kind = .halfOpen → s.memory.state.kind = .opened

/-! ## One step -/

theorem Shift.edge {now : Instant} {wall : Timestamp} {turn : Turn α ε} {before after : State × UInt32}
    (h : Shift c now wall turn before after) (hb : turn.byHand = false) (hn : after.1 ≠ before.1) :
    before.1.kind.Edge after.1.kind := by
  cases h with
  | waits | passes | counts | straggles => exact absurd rfl hn
  | promotes => exact .promotion
  | recovers => exact .recovery
  | trips => exact .trip
  | relapses => exact .relapse
  | forcesOpen | forcesClosed => cases hb

theorem Kind.Edge.ne {a b : Kind} (h : a.Edge b) : b ≠ a := by
  cases h <;> decide

theorem Kind.Edge.to_halfOpen {a : Kind} (h : a.Edge .halfOpen) : a = .opened := by
  cases h; rfl

/-- By hand a circuit gets into the state that is asked for. -/
theorem Shift.of_byHand {now : Instant} {wall : Timestamp} {turn : Turn α ε} {before after : State × UInt32}
    (h : Shift c now wall turn before after) (hb : turn.byHand = true) :
    turn = .forceOpen ∧ after.1.kind = .opened ∨ turn = .forceClose ∧ after.1.kind = .closed := by
  cases h with
  | waits hr | promotes hr => rw [Turn.byHand_of_refreshes hr] at hb; cases hb
  | forcesOpen => exact Or.inl ⟨rfl, rfl⟩
  | forcesClosed => exact Or.inr ⟨rfl, rfl⟩
  | _ => cases hb

/-- Every transition is legal. -/
theorem Step.legal {s : Step c α ε} {kind : Kind} (h : s.entered? = some kind) : s.Legal kind := by
  obtain ⟨rfl, hn⟩ := kind_of_entered? s h
  cases hb : s.turn.byHand with
  | true =>
    have hk : s.turn = .forceOpen ∧ s.next.state.kind = .opened ∨
      s.turn = .forceClose ∧ s.next.state.kind = .closed := s.shift.of_byHand hb
    refine ⟨fun hf => (by rw [hb] at hf; cases hf), fun _ => hk, fun hh => ?_⟩
    rw [hh] at hk
    rcases hk with ⟨-, hk⟩ | ⟨-, hk⟩ <;> cases hk
  | false =>
    have he : s.memory.state.kind.Edge s.next.state.kind :=
      s.shift.edge hb (hn.resolve_left (by rw [hb]; nofun))
    exact ⟨fun _ => he, fun hk => absurd hk he.ne, fun hh => (hh ▸ he).to_halfOpen⟩

/-- The listener of a turn runs in the state that it tells of. -/
theorem Step.kind_of_fired {s : Step c α ε} {kind : Kind} (h : kind ∈ fired s.notes) :
    s.next.state.kind = kind := by
  rw [s.fired_notes, Option.mem_toList] at h
  exact (kind_of_entered? s h).1

/-- A turn that panics ends with the listener of the state that it has entered. -/
theorem Step.notes_of_panic {s : Step c α ε} {text : String} (h : s.ended.result = .error text) :
    ∃ kind, s.entered? = some kind ∧ s.notes.getLast? = some (.notified kind) := by
  obtain ⟨next, ht, hn⟩ := Turn.notes_of_panic c h
  exact ⟨next.kind, by rw [s.entered?_eq, ht]; rfl, hn⟩

/-- Which listener may run in a turn. -/
def Turn.tells : Turn α ε → List Kind
  | admission _ _ | kind | snapshot => [.halfOpen]
  | recording _ _ => [.closed, .opened]
  | forceOpen => [.opened]
  | forceClose => [.closed]

theorem Turn.tells_of_refreshes {turn : Turn α ε} (h : turn.refreshes = true) : turn.tells = [.halfOpen] := by
  cases turn with
  | admission | kind | snapshot => rfl
  | _ => cases h

theorem Shift.tells {now : Instant} {wall : Timestamp} {turn : Turn α ε} {before after : State × UInt32}
    (h : Shift c now wall turn before after) (hn : turn.byHand = true ∨ after.1 ≠ before.1) :
    after.1.kind ∈ turn.tells := by
  cases h with
  | waits hr => exact absurd rfl (hn.resolve_left (by rw [Turn.byHand_of_refreshes hr]; nofun))
  | promotes hr => rw [Turn.tells_of_refreshes hr]; exact List.mem_singleton_self _
  | passes | counts | straggles => exact absurd rfl (hn.resolve_left nofun)
  | recovers => exact List.mem_cons_self
  | trips | relapses => exact List.mem_cons_of_mem _ (List.mem_singleton_self _)
  | forcesOpen | forcesClosed => exact List.mem_singleton_self _

theorem Step.mem_tells {s : Step c α ε} {kind : Kind} (h : s.entered? = some kind) : kind ∈ s.turn.tells := by
  obtain ⟨rfl, hn⟩ := s.kind_of_entered? h
  exact s.shift.tells hn

/-- A turn runs at most one listener, one that it may run; by hand exactly that one. -/
theorem Step.fired_le (s : Step c α ε) :
    (fired s.notes).length ≤ 1 ∧ (∀ kind ∈ fired s.notes, kind ∈ s.turn.tells) ∧
      (s.turn.byHand = true → fired s.notes = s.turn.tells) := by
  have hmem : ∀ kind ∈ fired s.notes, kind ∈ s.turn.tells := by
    intro kind hk
    rw [s.fired_notes, Option.mem_toList] at hk
    exact mem_tells hk
  refine ⟨?_, hmem, fun hb => ?_⟩
  · rw [s.fired_notes]; cases s.entered? <;> simp
  · have he : s.entered? = some s.next.state.kind := if_pos (Or.inl hb)
    have hk := hmem s.next.state.kind (by rw [s.fired_notes, he]; exact List.mem_singleton_self _)
    rw [s.fired_notes, he]
    cases ht : s.turn with
    | forceOpen | forceClose => rw [ht] at hk; rw [List.mem_singleton.1 hk]; rfl
    | _ => rw [ht] at hb; cases hb

/-! ## Runs -/

theorem firings_concat (steps : List (Step c α ε)) (s : Step c α ε) :
    firings (steps ++ [s]) = firings steps ++ s.entered?.toList := by
  unfold firings
  rw [List.flatMap_append, fired_append, List.flatMap_singleton, s.fired_notes]

theorem firings_cons (s : Step c α ε) (steps : List (Step c α ε)) :
    firings (s :: steps) = s.entered?.toList ++ firings steps := by
  unfold firings
  rw [List.flatMap_cons, fired_append, s.fired_notes]

theorem firings_eq (steps : List (Step c α ε)) : firings steps = steps.filterMap Step.entered? := by
  induction steps using List.reverseRecOn with
  | nil => rfl
  | append_singleton steps s ih =>
    rw [firings_concat, List.filterMap_append, ih]
    cases h : s.entered? <;> simp [h]

/-- The kind of the state in which listeners have left the circuit. -/
def lastTold (kinds : List Kind) : Kind := kinds.getLast?.getD .closed

/-- After a run the circuit is in the kind of state that was told last, and half-open is told only
right after open. -/
theorem told_after (events : List (Turn α ε × σ)) :
    (c.after (.initial : Memory ε) events).state.kind = lastTold (firings (c.steps .initial events)) ∧
      (Kind.closed :: firings (c.steps (.initial : Memory ε) events)).IsChain
        fun kind next => next = .halfOpen → kind = .opened := by
  refine c.steps_induction (motive := fun steps memory => memory.state.kind = lastTold (firings steps) ∧
    (Kind.closed :: firings steps).IsChain fun kind next => next = .halfOpen → kind = .opened)
    ?_ (fun steps s ih => ?_) events
  · exact ⟨rfl, List.isChain_singleton _⟩
  · rw [firings_concat]
    cases h : s.entered? with
    | none =>
      -- no listener runs, and the state stays
      rw [(s.state_of_entered?_none h).2]
      simpa using ih
    | some kind =>
      refine ⟨?_, ?_⟩
      · rw [(s.kind_of_entered? h).1]; simp [lastTold]
      · show ((Kind.closed :: firings steps) ++ [kind]).IsChain _
        refine List.isChain_append.2 ⟨ih.2, List.isChain_singleton _, fun last hl next hn hh => ?_⟩
        rw [List.getLast?_cons] at hl
        cases hl; cases hn
        exact ih.1.symm.trans ((Step.legal h).before hh)

/-- Between two promotions of a run from the start the circuit is opened. -/
theorem opened_between {events : List (Turn α ε × σ)} {early between late : List Kind}
    (h : firings (c.steps (.initial : Memory ε) events) = early ++ .halfOpen :: between ++ .halfOpen :: late) :
    .opened ∈ between := by
  have hchain := (told_after (c := c) (ε := ε) events).2
  rw [h, ← List.cons_append] at hchain
  have hlast := (List.isChain_append.1 hchain).2.2
  -- the listener that runs right before the second promotion is the one for open
  rcases List.eq_nil_or_concat between with rfl | ⟨between, last, rfl⟩
  · have := hlast .halfOpen (by rw [← List.cons_append, List.getLast?_concat]; rfl) .halfOpen rfl rfl
    cases this
  · have hl : last = .opened := by
      refine hlast last ?_ .halfOpen rfl rfl
      rw [List.concat_eq_append, ← List.cons_append, ← List.cons_append, ← List.append_assoc,
        List.getLast?_concat]
      rfl
    rw [hl, List.concat_eq_append]
    exact List.mem_append_right _ (List.mem_singleton_self _)

/-- What an attempt itself does: at most two listeners run, and where two do, the first tells of the
half-open state and the second does not. -/
theorem firings_of_attempt {steps : List (Step c α ε)} (h : Orderly steps) (attempt : Nat) :
    (firings (stepsOf attempt steps)).length ≤ 2 ∧
      ∀ first second, firings (stepsOf attempt steps) = [first, second] →
        first = .halfOpen ∧ second ≠ .halfOpen := by
  rw [firings_eq]
  rcases stepsOf_orderly h attempt with hnil | ⟨s, form, hone, -⟩ | ⟨s, t, form, htwo, hs, outcome, ht⟩
  · rw [hnil]; exact ⟨Nat.zero_le 2, nofun⟩
  · have hlen : ([s].filterMap Step.entered?).length ≤ 1 := List.length_filterMap_le _ _
    rw [hone]
    refine ⟨Nat.le_succ_of_le hlen, fun first second he => ?_⟩
    rw [he] at hlen
    exact absurd hlen (by simp)
  · rw [htwo]
    refine ⟨List.length_filterMap_le _ _, fun first second he => ?_⟩
    cases hfirst : s.entered? <;> cases hsecond : t.entered? <;> simp [hfirst, hsecond] at he
    obtain ⟨rfl, rfl⟩ := he
    have h₁ := Step.mem_tells hfirst
    have h₂ := Step.mem_tells hsecond
    rw [hs] at h₁
    rw [ht] at h₂
    exact ⟨List.mem_singleton.1 h₁, by rintro rfl; simp [Turn.tells] at h₂⟩

/-! ## Diaries -/

section

variable {η δ : Type}

/-- The surroundings keep a diary. The listener that runs for a kind of state is noted, and nothing else is. -/
structure World.Notes (w : World σ) (listener? : Kind → Option δ) (diary : σ → List δ) : Prop where
  now : ∀ world, diary (w.now world).2 = diary world
  wall : ∀ world, diary (w.wall world).2 = diary world
  notify : ∀ kind world, diary (w.notify kind world).2 = diary world ++ (listener? kind).toList

variable {listener? : Kind → Option δ} {diary : σ → List δ}

theorem World.Notes.reads (h : c.world.Notes listener? diary) :
    c.world.Reads fun before after => diary after = diary before :=
  ⟨fun _ => rfl, fun hab hbd => hbd.trans hab, h.now, h.wall⟩

/-- A turn that enters a state notes the listener for it, if there is one, and no turn notes any other. -/
theorem World.Notes.step (h : c.world.Notes listener? diary) (s : Step c α ε) :
    diary s.ended.world = diary s.world ++ (s.entered?.bind listener?).toList := by
  have hheard : diary (c.heard s.memory s.world s.turn).2 = diary s.world ++ (s.entered?.bind listener?).toList := by
    unfold Circuit.heard
    rw [s.entered?_eq, ← h.reads.clocked s.world s.turn]
    cases c.target s.memory s.world s.turn with
    | none => exact (List.append_nil _).symm
    | some next => exact h.notify next.kind _
  cases hh : (c.heard s.memory s.world s.turn).1 with
  | some text =>
    have hended : s.ended = _ := Turn.call_of_panic c hh
    rw [hended]
    exact hheard
  | none =>
    have hended : s.ended = _ := Turn.call_of_returns c hh
    rw [hended, ← hheard]
    exact h.reads.conclude s.turn _ _

/-- So the diary gets longer by the listener that the turn tells of. -/
theorem World.Notes.turn (h : c.world.Notes listener? diary) (s : Step c α ε) :
    diary s.ended.world = diary s.world ++ (fired s.notes).filterMap listener? := by
  rw [h.step s, s.fired_notes]
  cases he : s.entered? with
  | none => rfl
  | some kind => cases hl : listener? kind <;> simp [hl]

theorem diary_of_drifts {move : ClockMove → σ → σ} (hm : ∀ m world, diary (move m world) = diary world)
    {first last : σ} (hd : Drifts move first last) : diary last = diary first := by
  induction hd with
  | refl => rfl
  | tail _ hstep ih =>
    obtain ⟨m, rfl⟩ := hstep
    exact (hm m _).trans ih

/-- A run notes the listeners that its turns tell of, in the order of time. -/
theorem World.Notes.run (h : c.world.Notes listener? diary) {move : ClockMove → σ → σ} {steps : List (Step c α ε)}
    {first last : σ} (hh : HandsOn move first steps last) (hm : ∀ m world, diary (move m world) = diary world) :
    diary last = diary first ++ (firings steps).filterMap listener? := by
  induction steps generalizing first with
  | nil =>
    rw [diary_of_drifts hm hh]
    exact (List.append_nil _).symm
  | cons s steps ih =>
    obtain ⟨hdrift, hrest⟩ := hh
    rw [ih hrest, h.turn s, diary_of_drifts hm hdrift, s.fired_notes, firings_cons, List.filterMap_append,
      List.append_assoc]

/-- Surroundings in which the listeners of a circuit breaker run, and in which each of them is noted when it
does. What a listener does besides is told by `run`, and the clocks are those of other surroundings. -/
def Listeners.noting (listeners : Listeners η) (clocks : World σ) (run : η → σ → Option String × σ) :
    World (σ × List η) where
  now world := ((clocks.now world.1).1, (clocks.now world.1).2, world.2)
  wall world := ((clocks.wall world.1).1, (clocks.wall world.1).2, world.2)
  notify kind world :=
    match listeners.get kind with
    | none => (none, world)
    | some listener => ((run listener world.1).1, (run listener world.1).2, world.2 ++ [listener])

theorem notes_noting (listeners : Listeners η) (clocks : World σ) (run : η → σ → Option String × σ) :
    (listeners.noting clocks run).Notes listeners.get Prod.snd := by
  refine ⟨fun _ => rfl, fun _ => rfl, fun kind world => ?_⟩
  unfold Listeners.noting
  dsimp only
  cases listeners.get kind with
  | none => exact (List.append_nil _).symm
  | some listener => rfl

/-- On a bench the listeners that have run are noted by their numbers, the latest one first. -/
theorem Bench.notes (breaker : Breaker BenchListener) :
    (circuit breaker).world.Notes (fun kind => (breaker.listeners.get kind).map BenchListener.id)
      fun bench => bench.runs.reverse := by
  refine ⟨fun _ => rfl, fun _ => rfl, fun kind bench => ?_⟩
  unfold circuit world
  dsimp only
  cases breaker.listeners.get kind with
  | none => exact (List.append_nil _).symm
  | some listener => exact List.reverse_cons

/-- After a run on a bench, the listeners for the states that it has entered have run, in the order of time. -/
theorem Bench.runs_after (breaker : Breaker BenchListener) (events : List (Turn α ε × Bench)) {memory : Memory ε}
    {first last : Bench} (hh : HandsOn move first ((circuit breaker).steps memory events) last) :
    last.runs.reverse = first.runs.reverse ++ (firings ((circuit breaker).steps memory events)).filterMap
      fun kind => (breaker.listeners.get kind).map BenchListener.id :=
  (notes breaker).run hh fun _ _ => rfl

/-- A move of the clock leaves the diary alone. -/
def besideDiary (move : ClockMove → σ → σ) (m : ClockMove) (world : σ × List η) : σ × List η :=
  (move m world.1, world.2)

/-- A circuit breaker whose listeners are noted. -/
def Breaker.noted (breaker : Breaker η) (clocks : World σ) (run : η → σ → Option String × σ) :
    Circuit (σ × List η) :=
  ⟨breaker.settings, breaker.listeners.noting clocks run⟩

theorem Breaker.notes_noted (breaker : Breaker η) (clocks : World σ) (run : η → σ → Option String × σ) :
    (breaker.noted clocks run).world.Notes breaker.listeners.get Prod.snd :=
  notes_noting breaker.listeners clocks run

/-- The circuit breaker runs these listeners, with any clocks and whatever the listeners do. -/
structure Breaker.Runs (breaker : Breaker η) (listener? : Kind → Option η) : Prop where
  /-- At first it is closed, and no listener has run. -/
  new : ∀ {α ε σ : Type} (clocks : World σ) (run : η → σ → Option String × σ),
    let c := breaker.noted clocks run
    (c.after (.initial : Memory ε) ([] : List (Turn α ε × _))).state = .closed ∧
      firings (c.steps (.initial : Memory ε) ([] : List (Turn α ε × _))) = []
  /-- A turn that enters a state runs the listener for it, if there is one, and no turn runs any other. -/
  step : ∀ {α ε σ : Type} (clocks : World σ) (run : η → σ → Option String × σ)
    (s : Step (breaker.noted clocks run) α ε),
    s.ended.world.2 = s.world.2 ++ (s.entered?.bind listener?).toList
  /-- So a run does in the order of time, whatever turns it consists of. -/
  run : ∀ {α ε σ : Type} (clocks : World σ) (run : η → σ → Option String × σ) (move : ClockMove → σ → σ)
    (events : List (Turn α ε × σ × List η)) (first last : σ × List η),
    let steps := (breaker.noted clocks run).steps .initial events
    HandsOn (besideDiary move) first steps last →
    last.2 = first.2 ++ (steps.filterMap Step.entered?).filterMap listener?
  /-- And so does a session. -/
  session : ∀ {α ε σ : Type} (clocks : World σ) (run : η → σ → Option String × σ) (move : ClockMove → σ → σ)
    (actions : List (Action α ε)) (world : σ),
    let ended := Session.performAll (breaker.noted clocks run) (besideDiary move) actions (Session.start (world, []))
    ended.2.world.2 = (fired (Report.timelines ended.1)).filterMap listener?

theorem Breaker.runs (breaker : Breaker η) : breaker.Runs breaker.listeners.get where
  new _ _ := ⟨rfl, rfl⟩
  step clocks run s := (breaker.notes_noted clocks run).step s
  run clocks run move events first last hh := by
    rw [← firings_eq]
    exact (breaker.notes_noted clocks run).run hh fun _ _ => rfl
  session clocks run move actions world := by
    intro ended
    obtain ⟨events, -, -, hh, htold⟩ :=
      orderly_run_of_session (breaker.noted clocks run) (besideDiary move) actions (world, [])
    rw [show Report.timelines ended.1 = _ from htold]
    exact (breaker.notes_noted clocks run).run hh fun _ _ => rfl

end

/-! ## The course of a run -/

/-- What the transitions and the listeners of a run obey. That a turn tells of a listener means that it has run: a
diary of the listeners, which surroundings keep where each of them is noted as it runs (`notes_noting`), says
the same. -/
structure Course (steps : List (Step c α ε)) (memory : Memory ε) : Prop where
  /-- The listeners run one for one with the transitions, in their order. -/
  told : firings steps = steps.filterMap Step.entered?
  once : ∀ s ∈ steps, fired s.notes = s.entered?.toList
  /-- In every turn a diary of the listeners gets longer by those that the turn tells of, -/
  noted : ∀ {δ : Type} {listener? : Kind → Option δ} {diary : σ → List δ}, c.world.Notes listener? diary →
    ∀ s ∈ steps, diary s.ended.world = diary s.world ++ (fired s.notes).filterMap listener?
  /-- and in the run, if only the clock is moved between the turns, by those of all firings in their order. -/
  diary : ∀ {δ : Type} {listener? : Kind → Option δ} {diary : σ → List δ}, c.world.Notes listener? diary →
    ∀ {move : ClockMove → σ → σ} {first last : σ}, (∀ m world, diary (move m world) = diary world) →
    HandsOn move first steps last → diary last = diary first ++ (firings steps).filterMap listener?
  /-- A listener runs after the state has been installed: what a turn leaves is in the state told, also
  if the listener panics and ends the turn. -/
  installed : ∀ s ∈ steps, ∀ kind ∈ fired s.notes, s.next.state.kind = kind
  panics : ∀ s ∈ steps, ∀ text, s.ended.result = .error text →
    ∃ kind, s.entered? = some kind ∧ s.notes.getLast? = some (.notified kind)
  current : memory.state.kind = lastTold (firings steps)
  legal : ∀ s ∈ steps, ∀ kind, s.entered? = some kind → s.Legal kind
  opened_between : ∀ early between late,
    firings steps = early ++ .halfOpen :: between ++ .halfOpen :: late → .opened ∈ between
  turns : ∀ s ∈ steps, (fired s.notes).length ≤ 1 ∧ (∀ kind ∈ fired s.notes, kind ∈ s.turn.tells) ∧
    (s.turn.byHand = true → fired s.notes = s.turn.tells)
  attempts : Orderly steps → ∀ attempt, (firings (stepsOf attempt steps)).length ≤ 2 ∧
    ∀ first second, firings (stepsOf attempt steps) = [first, second] →
      first = .halfOpen ∧ second ≠ .halfOpen

/-- Every run from the start takes its course. -/
theorem course_of_run (c : Circuit σ) (events : List (Turn α ε × σ)) :
    Course (c.steps .initial events) (c.after .initial events) where
  told := firings_eq _
  once s _ := s.fired_notes
  noted h s _ := h.turn s
  diary h _ _ _ hm hh := h.run hh hm
  installed _ _ _ hk := Step.kind_of_fired hk
  panics _ _ _ ht := Step.notes_of_panic ht
  current := (told_after events).1
  legal _ _ _ hk := Step.legal hk
  opened_between _ _ _ h := opened_between h
  turns s _ := s.fired_le
  attempts h := firings_of_attempt h

end CircuitBreaker
