/-
A sketch of a circuit breaker for one client that takes one turn after the other: a few numbers of fixed
width, with time in whole milliseconds since the sketch was made, that are changed in place. Where a
sketch shows the state of a circuit breaker it goes on to do so, whatever turn is taken.
-/
import CircuitBreaker.Proofs.Counting
import CircuitBreaker.Proofs.Probes

namespace CircuitBreaker

/-! ## The sketch -/

/-- What the client does next. An attempt is over before anything else happens. -/
inductive Command (α ε : Type)
  | succeed (value : α)
  | fail (failure : ε)
  | advance (millis : UInt64)
  | poll
  | forceOpen
  | forceClose

/-- The sketch: its settings, the time, and what it remembers, with all the listeners that it has told of
the states that it entered. -/
structure Sketch where
  threshold : UInt32
  cooldown : UInt64
  now : UInt64
  kind : Kind
  entered : UInt64
  failures : UInt32
  fired : List Kind

namespace Sketch

variable {α ε σ : Type}

/-- A new sketch is closed and has told nobody. -/
def start (threshold : UInt32) (cooldown : UInt64) : Sketch := ⟨threshold, cooldown, 0, .closed, 0, 0, []⟩

/-- Enters a state, and tells its listener. -/
def enter (sketch : Sketch) (kind : Kind) : Sketch :=
  { sketch with
    entered := if kind = .opened then sketch.now else sketch.entered
    failures := if kind = .closed then 0 else sketch.failures
    kind := kind
    fired := sketch.fired ++ [kind] }

/-- Turns half-open when the cooldown has passed. -/
def refresh (sketch : Sketch) : Sketch :=
  if sketch.kind = .opened ∧ sketch.cooldown ≤ sketch.now - sketch.entered then sketch.enter .halfOpen
  else sketch

/-- A success, unless it was refused. -/
def succeed (sketch : Sketch) : Sketch :=
  if sketch.kind = .halfOpen then sketch.enter .closed else sketch

/-- A failure, unless it was refused. -/
def fail (sketch : Sketch) : Sketch :=
  match sketch.kind with
  | .closed =>
    let counted := { sketch with failures := sketch.failures + 1 }
    if counted.threshold ≤ counted.failures then counted.enter .opened else counted
  | .halfOpen => sketch.enter .opened
  | .opened => sketch

/-- Does as the client does. -/
def apply (sketch : Sketch) : Command α ε → Sketch
  | .succeed _ => sketch.refresh.succeed
  | .fail _ => sketch.refresh.fail
  | .advance millis => { sketch with now := sketch.now + millis }
  | .poll => sketch.refresh
  | .forceOpen => sketch.enter .opened
  | .forceClose => sketch.enter .closed

@[simp] theorem fired_enter (sketch : Sketch) (kind : Kind) :
    (sketch.enter kind).fired = sketch.fired ++ [kind] := rfl

/-- Does as the client does, to the end. -/
def run (sketch : Sketch) (commands : List (Command α ε)) : Sketch := commands.foldl apply sketch

/-- The part of the sketch that a turn takes. -/
def follow (sketch : Sketch) : Turn α ε → Sketch
  | .admission _ _ | .kind | .snapshot => sketch.refresh
  | .recording _ (.ok _) => sketch.succeed
  | .recording _ (.error _) => sketch.fail
  | .forceOpen => sketch.enter .opened
  | .forceClose => sketch.enter .closed

theorem follow_of_refreshes {turn : Turn α ε} (h : turn.refreshes = true) (sketch : Sketch) :
    sketch.follow turn = sketch.refresh := by
  cases turn with
  | admission | kind | snapshot => rfl
  | _ => cases h

theorem succeed_of_opened {sketch : Sketch} (h : sketch.kind = .opened) : sketch.succeed = sketch := by
  unfold succeed
  rw [if_neg (by rw [h]; decide)]

theorem fail_of_opened {sketch : Sketch} (h : sketch.kind = .opened) : sketch.fail = sketch := by
  unfold fail
  rw [h]

theorem fail_of_halfOpen {sketch : Sketch} (h : sketch.kind = .halfOpen) :
    sketch.fail = sketch.enter .opened := by
  unfold fail
  rw [h]

theorem fail_of_closed {sketch : Sketch} (h : sketch.kind = .closed) :
    sketch.fail =
      if sketch.threshold ≤ sketch.failures + 1 then
        { sketch with failures := sketch.failures + 1 }.enter .opened
      else { sketch with failures := sketch.failures + 1 } := by
  unfold fail
  rw [h]

/-! ## What the sketch shows -/

/-- What a clock shows so many milliseconds after its origin. -/
def reading (origin : Instant) (millis : UInt64) : Instant := ⟨origin.nanos + millis.toNat * 1000000⟩

/-- The sketch shows the state of a circuit breaker and its count of failures. A failure can always be
counted, and the time since the circuit was opened can always be told: no number of the sketch runs over
its width. -/
structure Shows (sketch : Sketch) (origin : Instant) (state : State) (n : UInt32) : Prop where
  kind : sketch.kind = state.kind
  failures : sketch.failures = n
  counts : state = .closed → n < sketch.threshold
  entered : ∀ entered wall, state = .opened entered wall →
    entered = reading origin sketch.entered ∧ sketch.entered ≤ sketch.now

/-- The cooldown has passed on the clock exactly if it has passed in the sketch. -/
theorem cooldown_le_since (origin : Instant) {cooldown entered now : UInt64} (h : entered ≤ now) :
    Duration.ofMillis cooldown.toNat ≤ (reading origin now).since (reading origin entered) ↔
      cooldown ≤ now - entered := by
  have hle : entered.toNat ≤ now.toNat := h
  rw [Duration.le_def, Instant.nanos_since, Duration.nanos_ofMillis, UInt64.le_iff_toNat_le,
    UInt64.toNat_sub_of_le now entered h]
  show cooldown.toNat * 1000000 ≤
    (origin.nanos + now.toNat * 1000000) - (origin.nanos + entered.toNat * 1000000) ↔ _
  omega

namespace Shows

variable {sketch : Sketch} {origin : Instant} {state : State} {n : UInt32}

theorem enter_opened (hn : sketch.failures = n) (wall : Timestamp) :
    (sketch.enter .opened).Shows origin (.opened (reading origin sketch.now) wall) n := by
  refine ⟨rfl, hn, nofun, ?_⟩
  rintro entered wall' h
  cases h
  exact ⟨rfl, UInt64.le_refl _⟩

/-- Only an open state has a time to tell. -/
theorem of_ne_opened (hk : sketch.kind = state.kind) (hn : sketch.failures = n)
    (hc : state = .closed → n < sketch.threshold) (ho : state.kind ≠ .opened) :
    sketch.Shows origin state n :=
  ⟨hk, hn, hc, fun entered wall hs => absurd (by rw [hs]; rfl) ho⟩

theorem enter_closed (hpos : 0 < sketch.threshold) : (sketch.enter .closed).Shows origin .closed 0 :=
  of_ne_opened rfl rfl (fun _ => hpos) nofun

theorem enter_halfOpen (h : sketch.Shows origin state n) :
    (sketch.enter .halfOpen).Shows origin .halfOpen n :=
  of_ne_opened rfl h.failures nofun nofun

/-- The sketch refreshes where the circuit breaker does. -/
theorem refresh_eq {cooldown : Duration} (h : sketch.Shows origin state n)
    (hc : cooldown = .ofMillis sketch.cooldown.toNat) :
    sketch.refresh =
      if (state.refresh (reading origin sketch.now) cooldown).isSome then sketch.enter .halfOpen
      else sketch := by
  unfold refresh
  refine if_congr ?_ rfl rfl
  rw [h.kind]
  cases state with
  | closed => simp [State.kind, State.refresh]
  | halfOpen => simp [State.kind, State.refresh]
  | opened entered wall =>
    obtain ⟨rfl, hle⟩ := h.entered entered wall rfl
    rw [← cooldown_le_since origin hle, State.refresh, hc]
    by_cases hcd : Duration.ofMillis sketch.cooldown.toNat ≤
      (reading origin sketch.now).since (reading origin sketch.entered) <;> simp [hcd, State.kind]

/-- A failure that the circuit breaker counts is counted in the sketch. -/
theorem bump_eq (h : sketch.Shows origin .closed n) : State.bump n = sketch.failures + 1 := by
  have hlt : n.toNat < sketch.threshold.toNat := h.counts rfl
  have hsize := sketch.threshold.toNat_lt_size
  rw [State.bump, if_pos (by omega), h.failures]

/-- A failure is counted in the sketch, and opens it where it opens the circuit breaker. -/
theorem fail_eq (h : sketch.Shows origin .closed n) :
    sketch.fail =
      if sketch.threshold ≤ State.bump n then { sketch with failures := State.bump n }.enter .opened
      else { sketch with failures := State.bump n } := by
  rw [fail_of_closed h.kind, h.bump_eq]

/-- Wherever a turn leads, the sketch follows, and tells the same listener. -/
theorem follow {c : Circuit σ} {wall : Timestamp} {turn : Turn α ε} {before after : State × UInt32}
    (hs : Shift c (reading origin sketch.now) wall turn before after)
    (h : sketch.Shows origin before.1 before.2) (ht : c.settings.threshold = sketch.threshold)
    (hc : c.settings.cooldown = .ofMillis sketch.cooldown.toNat) :
    (sketch.follow turn).Shows origin after.1 after.2 ∧
    (sketch.follow turn).fired =
      sketch.fired ++ (if turn.byHand = true ∨ after.1 ≠ before.1 then some after.1.kind else none).toList := by
  have hpos : 0 < sketch.threshold := ht ▸ c.settings.threshold_pos
  cases hs with
  | waits hr hnone =>
    rw [follow_of_refreshes hr, h.refresh_eq hc, hnone]
    exact ⟨h, by simp [Turn.byHand_of_refreshes hr]⟩
  | promotes hr hcd =>
    rw [follow_of_refreshes hr, h.refresh_eq hc, State.refresh, if_pos hcd]
    exact ⟨h.enter_halfOpen, by simp [State.kind]⟩
  | passes hne =>
    have hk : sketch.kind ≠ .halfOpen := by
      rw [h.kind]
      exact fun hk => hne (State.kind_eq_halfOpen.1 hk)
    show sketch.succeed.Shows origin _ _ ∧ sketch.succeed.fired = _
    rw [succeed, if_neg hk]
    exact ⟨h, by simp [Turn.byHand]⟩
  | recovers =>
    have hk : sketch.kind = .halfOpen := h.kind
    show sketch.succeed.Shows origin _ _ ∧ sketch.succeed.fired = _
    rw [succeed, if_pos hk]
    exact ⟨enter_closed hpos, by simp [State.kind]⟩
  | counts hn =>
    show sketch.fail.Shows origin _ _ ∧ sketch.fail.fired = _
    rw [h.fail_eq, if_neg (UInt32.not_le.2 (ht ▸ hn))]
    exact ⟨of_ne_opened h.kind rfl (fun _ => ht ▸ hn) (fun hk => by cases hk), by simp [Turn.byHand]⟩
  | trips hn =>
    show sketch.fail.Shows origin _ _ ∧ sketch.fail.fired = _
    rw [h.fail_eq, if_pos (ht ▸ hn)]
    exact ⟨enter_opened rfl wall, by simp [State.kind]⟩
  | relapses =>
    show sketch.fail.Shows origin _ _ ∧ sketch.fail.fired = _
    rw [fail_of_halfOpen h.kind]
    exact ⟨enter_opened h.failures wall, by simp [State.kind]⟩
  | straggles =>
    show sketch.fail.Shows origin _ _ ∧ sketch.fail.fired = _
    rw [fail_of_opened h.kind]
    exact ⟨h, by simp [Turn.byHand]⟩
  | forcesOpen => exact ⟨enter_opened h.failures wall, by simp [Sketch.follow, Turn.byHand, State.kind]⟩
  | forcesClosed => exact ⟨enter_closed hpos, by simp [Sketch.follow, Turn.byHand, State.kind]⟩

end Shows

/-! ## What a turn leaves alone in the sketch -/

/-- The settings of the sketch and the time. -/
def frame (sketch : Sketch) : UInt32 × UInt64 × UInt64 := (sketch.threshold, sketch.cooldown, sketch.now)

theorem frame_refresh (sketch : Sketch) : sketch.refresh.frame = sketch.frame := by
  unfold refresh; split <;> rfl

theorem frame_succeed (sketch : Sketch) : sketch.succeed.frame = sketch.frame := by
  unfold succeed; split <;> rfl

theorem frame_fail (sketch : Sketch) : sketch.fail.frame = sketch.frame := by
  cases h : sketch.kind with
  | closed => rw [fail_of_closed h]; split <;> rfl
  | opened => rw [fail_of_opened h]
  | halfOpen => rw [fail_of_halfOpen h]; rfl

theorem frame_follow (sketch : Sketch) (turn : Turn α ε) : (sketch.follow turn).frame = sketch.frame := by
  cases turn with
  | admission | kind | snapshot => exact sketch.frame_refresh
  | recording attempt outcome =>
    cases outcome with
    | ok a => exact sketch.frame_succeed
    | error failure => exact sketch.frame_fail
  | forceOpen | forceClose => rfl

/-- An open sketch has nothing to do with an outcome. -/
theorem follow_recording_of_opened {sketch : Sketch} (h : sketch.kind = .opened) (attempt : Nat)
    (outcome : Except ε α) : sketch.follow (.recording attempt outcome) = sketch := by
  cases outcome with
  | ok a => exact succeed_of_opened h
  | error failure => exact fail_of_opened h

end Sketch

end CircuitBreaker
