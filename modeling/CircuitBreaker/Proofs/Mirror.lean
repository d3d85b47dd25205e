/-
Sessions of one client, on a clock that is moved by hand, and what the sketch makes of them. In sessions
of any length the circuit breaker does what the sketch says: it gets into the same kinds of states with
the same counts of failures, runs the same listeners, and rejects the same attempts.
-/
import CircuitBreaker.Proofs.Building
import CircuitBreaker.Proofs.Ending
import CircuitBreaker.Proofs.Sessions
import CircuitBreaker.Proofs.Sketch
import Mathlib.Algebra.GroupWithZero.Nat

namespace CircuitBreaker

/-! ## Attempts that nothing comes between -/

namespace Session

variable {α ε σ : Type} {c : Circuit σ} {move : ClockMove → σ → σ}

theorem perform_attempt_of_admitted (session : Session α ε σ) (outcome : Outcome α ε)
    (h : (c.admission session.memory session.world).result = .ok none) :
    let admitted := c.admission session.memory session.world
    let settled := (session.having admitted).settle c outcome
    perform c move (.attempt .running outcome []) session =
      .mk settled.answer (admitted.notes ++ [.started]) [] settled.notes settled.session := by
  rw [perform, call_eq]
  dsimp only
  rw [h]
  rfl

theorem perform_attempt_of_refused (session : Session α ε σ) (outcome : Outcome α ε) {r : Rejection ε}
    (h : (c.admission session.memory session.world).result = .ok (some r)) :
    let refused := c.admission session.memory session.world
    perform c move (.attempt .running outcome []) session =
      (session.having refused).report (.refused (.rejected r)) refused.notes := by
  rw [perform, call_eq]
  dsimp only
  rw [h]

/-- An attempt whose admission does not panic is one turn if it is refused, and otherwise goes on to the
end of its operation. -/
theorem perform_attempt (session : Session α ε σ) (move : ClockMove → σ → σ) (outcome : Outcome α ε)
    (h : (c.heard session.memory session.world (.admission 0 .running : Turn α ε)).1 = none) :
    let asked := (Turn.admission 0 .running : Turn α ε).call c session.memory session.world
    let report := perform c move (.attempt .running outcome []) session
    let settled := (session.having asked).settle c outcome
    (asked.memory.state.kind ≠ .opened ∧ report.timeline = asked.notes ++ settled.timeline ∧
      report.session = settled.session ∧ report.answer = settled.answer) ∨
    asked.memory.state.kind = .opened ∧
      ∃ r, report = (session.having asked).report (.refused (.rejected r)) asked.notes := by
  intro asked report settled
  have hends := Turn.admission_returns c h
  cases hr : (c.admission session.memory session.world).result with
  | error text =>
    have hp : asked.result = .error text := by
      show ((c.admission >>= Turn.respond .running) session.memory session.world).result = _
      rw [Call.bind_panic hr]
    rcases hends with ⟨hw, -⟩ | ⟨r, hw, -⟩
    · cases hp.symm.trans hw
    · cases hp.symm.trans hw
  | ok reply =>
    cases reply with
    | none =>
      have hcall : asked = _ := Turn.call_admission_of_eq 0 .running hr
      have hreport : report = _ := perform_attempt_of_admitted session outcome hr
      have hsettled : settled = ((session.having (c.admission session.memory session.world)).settle c outcome) := by
        show (session.having asked).settle c outcome = _
        rw [hcall]; rfl
      rcases hends with ⟨-, hk⟩ | ⟨r, hw, -⟩
      · refine Or.inl ⟨hk, ?_, ?_, ?_⟩
        · rw [hreport, hsettled, hcall, timeline_settle]
          simp [Report.timeline, Report.timelines, Form.notes]
        · rw [hreport, hsettled]; rfl
        · rw [hreport, hsettled]; rfl
      · cases (congrArg Ended.result hcall).symm.trans hw
    | some r =>
      obtain ⟨result, hcall⟩ := Turn.call_admission_of_ne (α := α) 0 .running (by rw [hr]; intro he; cases he)
      have hw : asked.result = .ok (.refused (.rejected r)) := by
        show ((c.admission >>= Turn.respond .running) session.memory session.world).result = _
        rw [Call.bind_ok hr]; rfl
      rcases hends with ⟨hw', -⟩ | ⟨r', -, -, hm, hk⟩
      · cases hw.symm.trans hw'
      · refine Or.inr ⟨by rw [show asked.memory = _ from hm]; exact hk, r, ?_⟩
        rw [show report = _ from perform_attempt_of_refused session outcome hr, show asked = _ from hcall]
        rfl

end Session

/-! ## A circuit breaker whose listeners tell -/

namespace Bench

/-- A listener that leaves the name of its kind of state, and does nothing else. -/
def teller (kind : Kind) : BenchListener := ⟨Kind.all.idxOf kind, kind.name, false, none, none⟩

end Bench

/-- The circuit breaker has these settings, and a teller for every kind of state. -/
structure Breaker.Tells (breaker : Breaker BenchListener) (threshold : UInt32) (cooldownMillis : UInt64) :
    Prop where
  threshold : breaker.settings.threshold = threshold
  cooldown : breaker.settings.cooldown = .ofMillis cooldownMillis.toNat
  listeners : ∀ kind, breaker.listeners.get kind = some (Bench.teller kind)

namespace Breaker.Tells

variable {ε : Type} {breaker : Breaker BenchListener} {threshold : UInt32} {cooldownMillis : UInt64}

theorem notify (h : breaker.Tells threshold cooldownMillis) (kind : Kind) (bench : Bench) :
    (Bench.circuit breaker).world.notify kind bench =
      (none, { bench with runs := (Bench.teller kind).id :: bench.runs }) := by
  unfold Bench.circuit Bench.world
  dsimp only
  rw [h.listeners]
  rfl

/-- Tellers leave the clock alone. -/
theorem keeps (h : breaker.Tells threshold cooldownMillis) :
    (Bench.circuit breaker).world.Keeps Bench.clock :=
  ⟨fun _ => rfl, fun _ => rfl, fun kind bench => by rw [h.notify]⟩

/-- Tellers do not panic. -/
theorem heard {α : Type} (h : breaker.Tells threshold cooldownMillis) (memory : Memory ε) (bench : Bench)
    (turn : Turn α ε) : ((Bench.circuit breaker).heard memory bench turn).1 = none := by
  unfold Circuit.heard
  cases (Bench.circuit breaker).target memory bench turn with
  | none => rfl
  | some next => exact congrArg Prod.fst (h.notify _ _)

end Breaker.Tells

/-! ## What a clock of a client shows -/

theorem Instant.isSome_add? {start : Instant} {d : Duration} :
    (start.add? d).isSome = true ↔ start.nanos + d.nanos < limit.nanos := by
  unfold add?
  dsimp only
  split <;> simp [*]

theorem Instant.add?_of_lt {start : Instant} {d : Duration} (h : start.nanos + d.nanos < limit.nanos) :
    start.add? d = some ⟨start.nanos + d.nanos⟩ := if_pos h

/-- Up to the limit of its moves a clock shows how far it has been moved, if it can show the limit. -/
theorem ManualClock.now_of_le {origin : Instant} {wallOrigin : Timestamp} {elapsed : Duration}
    (hfar : (origin.add? maxOffset).isSome = true) (h : elapsed ≤ maxOffset) :
    (⟨origin, wallOrigin, elapsed⟩ : ManualClock).now = ⟨origin.nanos + elapsed.nanos⟩ := by
  have hle : elapsed.nanos ≤ maxOffset.nanos := h
  have hlt := Instant.isSome_add?.1 hfar
  rw [now, Instant.add?_of_lt (by dsimp only; omega)]
  rfl

theorem ManualClock.moved_ofMillis {elapsed step : Nat}
    (h : Duration.ofMillis (elapsed + step) ≤ maxOffset) :
    moved (.ofMillis elapsed) (.ofMillis step) = .ofMillis (elapsed + step) := by
  have hsum : Duration.ofMillis elapsed + .ofMillis step = .ofMillis (elapsed + step) :=
    congrArg Duration.mk (Nat.add_mul elapsed step 1000000).symm
  have hmin : min (Duration.ofMillis (elapsed + step)).nanos maxOffset.nanos = _ :=
    Nat.min_eq_left (Duration.le_def.1 h)
  rw [moved, hsum]
  exact congrArg Duration.mk hmin

/-- Whole milliseconds up to the limit of a clock fit into a 64-bit number. -/
theorem lt_of_ofMillis_le_maxOffset {millis : Nat} (h : Duration.ofMillis millis ≤ ManualClock.maxOffset) :
    millis < UInt64.size := by
  have hnanos : millis * 1000000 ≤ 100 * 365 * 24 * 60 * 60 * 1000000000 := h
  have hsize : UInt64.size = 18446744073709551616 := rfl
  omega

theorem Duration.ofMillis_le_of_le {m n : Nat} {d : Duration} (h : ofMillis n ≤ d) (hmn : m ≤ n) :
    ofMillis m ≤ d :=
  Nat.le_trans (Nat.mul_le_mul_right _ hmn) h

/-! ## The mirror -/

section

variable {α ε : Type} {breaker : Breaker BenchListener} {origin : Instant} {wallOrigin : Timestamp}
  {sketch : Sketch} {session : Session α ε Bench} {told : List Note}

/-- The sketch mirrors a session, in which so much has happened, on a clock that started so. -/
structure Sketch.Mirrors (sketch : Sketch) (breaker : Breaker BenchListener) (origin : Instant)
    (wallOrigin : Timestamp) (session : Session α ε Bench) (told : List Note) : Prop where
  tells : breaker.Tells sketch.threshold sketch.cooldown
  far : (origin.add? ManualClock.maxOffset).isSome = true
  shows : sketch.Shows origin session.memory.state session.memory.failures
  clock : session.world.clock = .manual ⟨origin, wallOrigin, .ofMillis sketch.now.toNat⟩
  within : Duration.ofMillis sketch.now.toNat ≤ ManualClock.maxOffset
  fired : CircuitBreaker.fired told = sketch.fired

namespace Sketch.Mirrors

theorem now_eq (h : sketch.Mirrors breaker origin wallOrigin session told) :
    ((Bench.circuit breaker).world.now session.world).1 = reading origin sketch.now := by
  show session.world.clock.now = _
  rw [h.clock]
  exact ManualClock.now_of_le h.far h.within

/-- A turn is followed by the sketch. -/
theorem turn (h : sketch.Mirrors breaker origin wallOrigin session told) (turn : Turn α ε) :
    let ended := turn.call (Bench.circuit breaker) session.memory session.world
    (sketch.follow turn).Mirrors breaker origin wallOrigin (session.having ended) (told ++ ended.notes) := by
  intro ended
  let s : Step (Bench.circuit breaker) α ε := ⟨turn, session.memory, session.world⟩
  have hshift := s.shift
  rw [show s.now = reading origin sketch.now from h.now_eq] at hshift
  obtain ⟨hshows, hfired⟩ := Shows.follow hshift h.shows h.tells.threshold h.tells.cooldown
  have hframe : ((sketch.follow turn).threshold, (sketch.follow turn).cooldown, (sketch.follow turn).now) =
    (sketch.threshold, sketch.cooldown, sketch.now) := sketch.frame_follow turn
  obtain ⟨hthreshold, hrest⟩ := Prod.mk.inj hframe
  obtain ⟨hcooldown, hnow⟩ := Prod.mk.inj hrest
  refine ⟨by rw [hthreshold, hcooldown]; exact h.tells, h.far, hshows, ?_, by rw [hnow]; exact h.within, ?_⟩
  · rw [hnow]
    exact (h.tells.keeps.call turn session.memory session.world).trans h.clock
  · rw [fired_append, h.fired, hfired]
    exact congrArg (sketch.fired ++ ·) s.fired_notes

theorem ask {β : Type} (h : sketch.Mirrors breaker origin wallOrigin session told) (turn : Turn α ε)
    {call : Call ε Bench β} {give : β → Answer α ε}
    (hc : turn.call (Bench.circuit breaker) = call >>= fun b => pure (give b)) (answer : β → Answer α ε) :
    (sketch.follow turn).Mirrors breaker origin wallOrigin (session.ask call answer).session
      (told ++ (session.ask call answer).timeline) := by
  have hturn := h.turn turn
  rw [hc, Call.bind_pure_apply] at hturn
  rw [session.timeline_ask, session.session_ask]
  exact hturn

/-- The attempt of an operation with a result. -/
theorem attempt (h : sketch.Mirrors breaker origin wallOrigin session told) (outcome : Outcome α ε)
    (result : Except ε α)
    (ho : ∀ session : Session α ε Bench, session.settle (Bench.circuit breaker) outcome =
      session.ask ((Bench.circuit breaker).record result) Session.answerOf) :
    let report := Session.perform (Bench.circuit breaker) Bench.move (.attempt .running outcome []) session
    (sketch.refresh.follow (.recording 0 result : Turn α ε)).Mirrors breaker origin wallOrigin
      report.session (told ++ report.timeline) := by
  intro report
  have hasked := h.turn (.admission 0 .running)
  rcases session.perform_attempt Bench.move outcome (h.tells.heard _ _ _) with
    ⟨-, htimeline, hsession, -⟩ | ⟨hk, r, hreport⟩
  · rw [show report.timeline = _ from htimeline, show report.session = _ from hsession, ho, ← List.append_assoc]
    exact hasked.ask (.recording 0 result) rfl _
  · have hopened : sketch.refresh.kind = .opened := hasked.shows.kind.trans hk
    rw [show report = _ from hreport, Session.timeline_report, follow_recording_of_opened hopened]
    exact hasked

/-- The clock and the sketch are moved alike. -/
theorem advance (h : sketch.Mirrors breaker origin wallOrigin session told) (millis : UInt64)
    (hw : Duration.ofMillis (sketch.now.toNat + millis.toNat) ≤ ManualClock.maxOffset) :
    { sketch with now := sketch.now + millis }.Mirrors breaker origin wallOrigin
      { session with world := Bench.move (.advance (.ofMillis millis.toNat)) session.world } told := by
  have hnow : (sketch.now + millis).toNat = sketch.now.toNat + millis.toNat := by
    rw [UInt64.toNat_add, Nat.mod_eq_of_lt (lt_of_ofMillis_le_maxOffset hw)]
  refine ⟨h.tells, h.far, ?_, ?_, by rw [hnow]; exact hw, h.fired⟩
  · refine ⟨h.shows.kind, h.shows.failures, h.shows.counts, fun entered wall hs => ?_⟩
    obtain ⟨hentered, hle⟩ := h.shows.entered entered wall hs
    refine ⟨hentered, ?_⟩
    rw [UInt64.le_iff_toNat_le] at hle ⊢
    rw [hnow]
    exact hle.trans (Nat.le_add_right _ _)
  · show BenchClock.move _ session.world.clock = _
    rw [h.clock, hnow, ← ManualClock.moved_ofMillis hw]
    rfl

end Sketch.Mirrors

end

/-! ## Commands -/

section

variable {α ε : Type}

namespace Command

/-- What the client does. -/
def action : Command α ε → Action α ε
  | succeed value => .attempt .running (.ok value) []
  | fail failure => .attempt .running (.failure failure) []
  | advance millis => .move (.advance (.ofMillis millis.toNat))
  | poll => .kind
  | forceOpen => .forceOpen
  | forceClose => .forceClose

/-- How far the clock is moved, in milliseconds. -/
def millis : Command α ε → Nat
  | advance millis => millis.toNat
  | _ => 0

/-- How far the clock is moved by all the commands. -/
def total (commands : List (Command α ε)) : Nat := (commands.map millis).sum

end Command

theorem Sketch.now_apply {sketch : Sketch} {command : Command α ε}
    (h : sketch.now.toNat + command.millis < UInt64.size) :
    (sketch.apply command).now.toNat = sketch.now.toNat + command.millis := by
  -- only one of the commands moves the clock
  have hstays : ∀ sketch' : Sketch, sketch'.frame = sketch.frame → sketch'.now.toNat = sketch.now.toNat :=
    fun _ h => congrArg (fun frame => frame.2.2.toNat) h
  cases command with
  | advance millis =>
    show (sketch.now + millis).toNat = _
    rw [UInt64.toNat_add]
    exact Nat.mod_eq_of_lt h
  | succeed value => exact hstays _ ((frame_succeed _).trans sketch.frame_refresh)
  | fail failure => exact hstays _ ((frame_fail _).trans sketch.frame_refresh)
  | poll => exact hstays _ sketch.frame_refresh
  | forceOpen | forceClose => rfl

namespace Sketch.Mirrors

variable {breaker : Breaker BenchListener} {origin : Instant} {wallOrigin : Timestamp}

/-- Whatever the client does, the sketch does it too. -/
theorem perform {sketch : Sketch} {session : Session α ε Bench} {told : List Note}
    (h : sketch.Mirrors breaker origin wallOrigin session told) (command : Command α ε)
    (hw : Duration.ofMillis (sketch.now.toNat + command.millis) ≤ ManualClock.maxOffset) :
    let report := Session.perform (Bench.circuit breaker) Bench.move command.action session
    (sketch.apply command).Mirrors breaker origin wallOrigin report.session (told ++ report.timeline) := by
  cases command with
  | succeed value => exact h.attempt (.ok value) (.ok value) fun _ => rfl
  | fail failure => exact h.attempt (.failure failure) (.error failure) fun _ => rfl
  | advance millis =>
    intro report
    rw [show report.timeline = _ from Session.timeline_report _ _ _, List.append_nil]
    exact h.advance millis hw
  | poll => exact h.ask .kind rfl _
  | forceOpen => exact h.ask .forceOpen rfl _
  | forceClose => exact h.ask .forceClose rfl _

/-- However many commands there are, as long as they do not move the clock beyond its limit. -/
theorem performAll (commands : List (Command α ε)) {sketch : Sketch} {session : Session α ε Bench}
    {told : List Note} (h : sketch.Mirrors breaker origin wallOrigin session told)
    (hw : Duration.ofMillis (sketch.now.toNat + Command.total commands) ≤ ManualClock.maxOffset) :
    let ended := Session.performAll (Bench.circuit breaker) Bench.move (commands.map Command.action) session
    (sketch.run commands).Mirrors breaker origin wallOrigin ended.2 (told ++ Report.timelines ended.1) := by
  induction commands generalizing sketch session told with
  | nil =>
    simp only [List.map_nil, Session.performAll, Report.timelines, List.append_nil]
    exact h
  | cons command commands ih =>
    rw [Command.total, List.map_cons, List.sum_cons, ← Nat.add_assoc] at hw
    have hfirst : Duration.ofMillis (sketch.now.toNat + command.millis) ≤ ManualClock.maxOffset :=
      Duration.ofMillis_le_of_le hw (Nat.le_add_right _ _)
    have hnow := now_apply (lt_of_ofMillis_le_maxOffset hfirst)
    have hrest := ih (h.perform command hfirst) (by rw [hnow]; exact hw)
    simp only [List.append_assoc] at hrest
    rw [List.map_cons, Session.performAll]
    exact hrest

end Sketch.Mirrors

end

end CircuitBreaker
