/-
What snapshots tell. The parts of a snapshot belong together, whatever the clocks do, and foretell how the
next attempt is answered if nothing but listeners moves the clock until then. On a clock that is moved by hand
the two points of time in the snapshot of an open circuit tell what is left of the cooldown.
-/
import CircuitBreaker.Proofs.ByHand
import CircuitBreaker.Proofs.Remaining

namespace CircuitBreaker

/-! ## Whole milliseconds -/

namespace Duration

theorem toNat_millis64 (d : Duration) : d.millis64.toNat = min d.millis (UInt64.size - 1) := by
  have hsize : UInt64.size = 18446744073709551616 := rfl
  unfold millis64
  rw [UInt64.toNat_ofNat', hsize]
  omega

theorem millis64_le {d d' : Duration} (h : d ≤ d') : d.millis64 ≤ d'.millis64 := by
  have hmillis : d.millis ≤ d'.millis := Nat.div_le_div_right h
  rw [UInt64.le_iff_toNat_le, toNat_millis64, toNat_millis64]
  omega

end Duration

section

variable {α ε σ : Type} {c : Circuit σ}

/-! ## The parts of a snapshot -/

/-- The snapshot of a circuit breaker with these settings is all of one piece, and tells what is
remembered. -/
structure Snapshot.Coherent (snap : Snapshot) (settings : Settings) (memory : Memory ε) : Prop where
  name : snap.name = settings.name
  threshold : snap.threshold = settings.threshold
  cooldown : snap.cooldownMillis = settings.cooldown.millis64
  kind : snap.kind = memory.state.kind
  failures : snap.failures = memory.failures
  hasLastFailure : snap.hasLastFailure = memory.lastFailure.isSome
  openedAt : snap.openedAt.isSome = true ↔ snap.kind = .opened
  remaining : snap.remainingMillis.isSome = true ↔ snap.kind = .opened
  rejecting : snap.isRejecting = true ↔ snap.kind = .opened
  le : ∀ millis ∈ snap.remainingMillis, millis ≤ snap.cooldownMillis

namespace Circuit

/-- What a snapshot shows that is taken right after a refresh. -/
def sight (c : Circuit σ) (memory : Memory ε) (world : σ) : Snapshot where
  name := c.settings.name
  kind := memory.state.kind
  failures := memory.failures
  threshold := c.settings.threshold
  cooldownMillis := c.settings.cooldown.millis64
  openedAt := memory.state.openedAt
  remainingMillis := (memory.state.remaining (c.world.now world).1 c.settings.cooldown).map (·.millis64)
  hasLastFailure := memory.lastFailure.isSome
  capturedAt := (c.world.wall (c.world.now world).2).1

theorem conclude_snapshot (c : Circuit σ) (memory : Memory ε) (world : σ) :
    c.conclude (.snapshot : Turn α ε) memory world =
      ⟨.ok (.snapshot (c.sight memory world)), memory, (c.world.wall (c.world.now world).2).2, []⟩ := rfl

theorem coherent_sight (c : Circuit σ) (memory : Memory ε) (world : σ) :
    (c.sight memory world).Coherent c.settings memory := by
  obtain ⟨state, failures, last⟩ := memory
  refine ⟨rfl, rfl, rfl, rfl, rfl, rfl, ?_, ?_, ?_, ?_⟩
  · cases state <;> simp [sight, State.openedAt, State.kind]
  · cases state <;> simp [sight, State.remaining, State.kind]
  · cases state <;> simp [sight, Snapshot.isRejecting, Kind.rejects, State.kind]
  · intro millis hm
    cases state with
    | closed | halfOpen => cases hm
    | opened entered wall =>
      obtain rfl := Option.some.inj hm
      refine Duration.millis64_le ?_
      rw [Duration.le_def, Duration.nanos_sub]
      omega

end Circuit

/-- Only who asks for a snapshot gets one. -/
theorem Step.turn_of_snapshot {s : Step c α ε} {snap : Snapshot}
    (h : s.ended.result = .ok (.snapshot snap)) : s.turn = .snapshot := by
  obtain ⟨turn, memory, world⟩ := s
  cases hh : (c.heard memory world turn).1 with
  | some text => cases ((Turn.result_eq_error_iff c).2 hh).symm.trans h
  | none =>
    cases turn with
    | snapshot => rfl
    | admission attempt form =>
      rcases Turn.admission_returns c hh with ⟨hw, -⟩ | ⟨r, hr, -⟩
      · cases hw.symm.trans h
      · cases hr.symm.trans h
    | recording attempt outcome =>
      rw [ended, Turn.call_of_returns c hh] at h
      cases outcome <;> cases h
    | kind | forceOpen | forceClose =>
      rw [ended, Turn.call_of_returns c hh] at h
      cases h

/-- A snapshot is taken of what is remembered after the refresh, once its listener has run. -/
theorem Step.snapshot_eq {s : Step c α ε} {snap : Snapshot} (h : s.ended.result = .ok (.snapshot snap)) :
    (c.heard s.memory s.world s.turn).1 = none ∧ s.next = c.moved s.memory s.world s.turn ∧
      snap = c.sight s.next (c.heard s.memory s.world s.turn).2 := by
  have hturn := Step.turn_of_snapshot h
  cases hh : (c.heard s.memory s.world s.turn).1 with
  | some text => cases ((Turn.result_eq_error_iff c).2 hh).symm.trans h
  | none =>
    have hended : s.ended = _ := Turn.call_of_returns c hh
    rw [hturn, c.conclude_snapshot] at hended
    have hnext : s.next = c.moved s.memory s.world (.snapshot : Turn α ε) := by
      rw [next, hended]
      rfl
    rw [hturn, hnext]
    rw [hended] at h
    cases h
    exact ⟨rfl, rfl, rfl⟩

/-- A query at the same moment tells the kind of state that the snapshot shows. -/
theorem Step.kind_of_snapshot {s : Step c α ε} {snap : Snapshot} (h : s.ended.result = .ok (.snapshot snap)) :
    (⟨.kind, s.memory, s.world⟩ : Step c α ε).ended.result = .ok (.kind snap.kind) := by
  have hturn := Step.turn_of_snapshot h
  obtain ⟨hh, hnext, hsnap⟩ := s.snapshot_eq h
  rw [hturn] at hh hnext
  -- a query makes the same move
  have hkind : (c.heard s.memory s.world (.kind : Turn α ε)).1 = none := hh
  have hended : (⟨.kind, s.memory, s.world⟩ : Step c α ε).ended = _ := Turn.call_of_returns c hkind
  rw [hended, hsnap, hnext]
  rfl

/-- Taking a snapshot changes neither the count of failures nor the failure observed last. -/
theorem Step.kept_of_snapshot {s : Step c α ε} {snap : Snapshot} (h : s.ended.result = .ok (.snapshot snap)) :
    s.next.failures = s.memory.failures ∧ s.next.lastFailure = s.memory.lastFailure := by
  obtain ⟨-, hnext, -⟩ := s.snapshot_eq h
  rw [hnext, Step.turn_of_snapshot h]
  unfold Circuit.moved
  cases ht : c.target s.memory s.world (.snapshot : Turn α ε) with
  | none => exact ⟨rfl, rfl⟩
  | some next =>
    obtain ⟨-, rfl⟩ := State.refresh_eq_some ht
    exact ⟨rfl, rfl⟩

/-! ## The next attempt -/

/-- From the first reading of a step to the end of the next one nothing but listeners moves the clock:
readings show the same unless a listener has run between them. -/
structure Undisturbed (s t : Step c α ε) : Prop where
  within : fired s.notes = [] → s.Still
  between : fired s.notes = [] → t.now = s.now
  after : fired t.notes = [] → t.Still

/-- A snapshot of an open circuit is taken where it stays open, right after the first reading. -/
theorem Step.staysOpened_of_snapshot {s : Step c α ε} {snap : Snapshot}
    (h : s.ended.result = .ok (.snapshot snap)) (hk : snap.kind = .opened) :
    ∃ entered wall, s.StaysOpened entered wall ∧ snap = c.sight s.next (c.world.now s.world).2 := by
  have hturn := Step.turn_of_snapshot h
  obtain ⟨-, -, hsnap⟩ := s.snapshot_eq h
  have hkind : s.next.state.kind = .opened := by
    rw [hsnap] at hk
    exact hk
  obtain ⟨entered, wall, hs⟩ := Step.staysOpened_of_refreshes (by rw [hturn]; rfl) hkind
  refine ⟨entered, wall, hs, ?_⟩
  have hworld : (c.heard s.memory s.world s.turn).2 = (c.world.now s.world).2 := by
    rw [Circuit.heard, hs.stays, hturn]
    rfl
  rw [hsnap, hworld]

/-- The time in a snapshot of an open circuit is what is left of the cooldown at the second reading. -/
theorem Step.StaysOpened.remaining_sight {s : Step c α ε} {entered : Instant} {wall : Timestamp}
    (h : s.StaysOpened entered wall) :
    (c.sight s.next (c.world.now s.world).2).remainingMillis =
      some (c.settings.cooldown - (c.world.now (c.world.now s.world).2).1.since entered).millis64 := by
  show (s.next.state.remaining _ _).map _ = _
  rw [h.after]
  rfl

/-- What an attempt right after a snapshot is told, if it is rejected. -/
theorem Undisturbed.of_rejected {s t : Step c α ε} {snap : Snapshot} {r : Rejection ε}
    (h : Undisturbed s t) (hs : s.ended.result = .ok (.snapshot snap)) (hnext : t.memory = s.next)
    (hr : t.ended.result = .ok (.refused (.rejected r))) :
    snap.isRejecting = true ∧ snap.remainingMillis = some r.remaining.millis64 := by
  obtain ⟨entered, wall, ht, hleft⟩ := Step.staysOpened_of_rejected hr
  obtain ⟨-, -, hsight⟩ := s.snapshot_eq hs
  have hkind : snap.kind = .opened := by
    rw [hsight]
    show s.next.state.kind = .opened
    rw [← hnext, ht.before]
    rfl
  have hcoherent := c.coherent_sight s.next (c.heard s.memory s.world s.turn).2
  rw [← hsight] at hcoherent
  obtain ⟨entered', wall', hopened, hsnap⟩ := Step.staysOpened_of_snapshot hs hkind
  obtain ⟨rfl, -⟩ : entered = entered' ∧ wall = wall' := by
    rw [← State.opened.injEq, ← ht.before, ← hopened.after, hnext]
  refine ⟨hcoherent.rejecting.2 hkind, ?_⟩
  -- no listener has run, so that all four readings show the same
  have hsecond : (c.world.now (c.world.now t.world).2).1 = (c.world.now (c.world.now s.world).2).1 := by
    rw [show (c.world.now (c.world.now t.world).2).1 = t.now from h.after ht.fired_eq_nil,
      show (c.world.now (c.world.now s.world).2).1 = s.now from h.within hopened.fired_eq_nil,
      h.between hopened.fired_eq_nil]
  rw [hsnap, hopened.remaining_sight, hleft, hsecond]

/-- An attempt right after a snapshot of an open circuit is rejected. -/
theorem Undisturbed.rejects {s t : Step c α ε} {snap : Snapshot} (h : Undisturbed s t)
    (hs : s.ended.result = .ok (.snapshot snap)) (hnext : t.memory = s.next) (hk : snap.kind = .opened)
    {attempt : Nat} {form : Form} (ht : t.turn = .admission attempt form) :
    ∃ r, t.ended.result = .ok (.refused (.rejected r)) := by
  obtain ⟨entered, wall, hopened, -⟩ := Step.staysOpened_of_snapshot hs hk
  have hbefore := hopened.after
  have hearly := hopened.early
  rw [← hnext] at hbefore
  rw [← h.between hopened.fired_eq_nil] at hearly
  have hr := Turn.refused_of_opened c (α := α) hbefore hearly attempt form
  rw [← ht] at hr
  exact ⟨_, hr⟩

/-! ## The points of time in a snapshot -/

/-- The snapshot shows an open circuit that was opened before it was taken, by less than the cooldown, and
what is left of that, in whole milliseconds. -/
structure Snapshot.Timed (snap : Snapshot) (cooldown : Duration) (opened : Timestamp) : Prop where
  openedAt : snap.openedAt = some opened
  nonneg : 0 ≤ snap.capturedAt.nanosSinceEpoch - opened.nanosSinceEpoch
  lt : snap.capturedAt.nanosSinceEpoch - opened.nanosSinceEpoch < cooldown.nanos
  remaining : snap.remainingMillis = some (cooldown - snap.capturedAt.since opened).millis64

theorem Dated.timed {move : ClockMove → σ → σ} {clock? : σ → Option ManualClock} {s : Step c α ε}
    {snap : Snapshot} (hd : Dated clock? s.memory s.world) (hw : c.world.ByHand move clock?)
    (h : s.ended.result = .ok (.snapshot snap)) (hk : snap.kind = .opened) :
    ∃ opened, snap.Timed c.settings.cooldown opened := by
  obtain ⟨entered, wall, hs, hsnap⟩ := Step.staysOpened_of_snapshot h hk
  obtain ⟨clock, hclock, -, hopened⟩ := hd
  obtain ⟨earlier, hroomy, hadvances, rfl, rfl⟩ := hopened entered wall hs.before
  obtain ⟨hle, hapart⟩ := hadvances.apart hroomy
  obtain ⟨hfirst, hthen⟩ := hw.now hclock
  obtain ⟨hsecond, hlast⟩ := hw.now hthen
  have hcaptured : snap.capturedAt = clock.wallNow := by
    rw [hsnap]
    exact (hw.wall hlast).1
  have hearly := hs.early
  rw [show s.now = clock.now from hfirst, Duration.le_def, Instant.nanos_since] at hearly
  refine ⟨earlier.wallNow, ?_, ?_, ?_, ?_⟩
  · rw [hsnap]
    exact congrArg State.openedAt hs.after
  · rw [hcaptured]
    omega
  · rw [hcaptured]
    omega
  · have hsince : clock.now.since earlier.now = clock.wallNow.since earlier.wallNow := by
      refine congrArg Duration.mk ?_
      show clock.now.nanos - earlier.now.nanos = (clock.wallNow.since earlier.wallNow).nanos
      rw [Timestamp.nanos_since]
      omega
    rw [hcaptured, ← hsince, hsnap, hs.remaining_sight, hsecond]

/-- Snapshots are coherent and foretell the next attempt. Whatever the clocks do, a snapshot that is returned
shows the kind of state that a query at the same moment tells, and its other parts fit that and what the
circuit breaker remembers. If nothing but listeners moves the clock from then to the end of the next attempt,
which is the very next call, the attempt is rejected exactly if the snapshot says so, and is told the time in
the snapshot. And in a run on a clock that is moved by hand, an open circuit was opened before its snapshot
was taken, by less than the cooldown, and what is left is the cooldown less the time between. -/
theorem snapshots_coherent (c : Circuit σ) :
    (∀ (s : Step c α ε) (snap : Snapshot), s.ended.result = .ok (.snapshot snap) →
      (⟨.kind, s.memory, s.world⟩ : Step c α ε).ended.result = .ok (.kind snap.kind) ∧
      snap.Coherent c.settings s.next ∧
      s.next.failures = s.memory.failures ∧ s.next.lastFailure = s.memory.lastFailure ∧
      ∀ (t : Step c α ε) (attempt : Nat) (form : Form), t.turn = .admission attempt form →
        t.memory = s.next → Undisturbed s t →
        ((∃ r, t.ended.result = .ok (.refused (.rejected r))) ↔ snap.isRejecting = true) ∧
        ∀ r, t.ended.result = .ok (.refused (.rejected r)) →
          snap.remainingMillis = some r.remaining.millis64) ∧
    ∀ (move : ClockMove → σ → σ) (clock? : σ → Option ManualClock) (events : List (Turn α ε × σ))
      (first last : σ) (clock : ManualClock), c.world.ByHand move clock? → clock? first = some clock →
      clock.Roomy → HandsOn move first (c.steps .initial events) last →
      ∀ s ∈ c.steps .initial events, ∀ snap, s.ended.result = .ok (.snapshot snap) → snap.kind = .opened →
        ∃ opened, snap.Timed c.settings.cooldown opened := by
  constructor
  · intro s snap h
    obtain ⟨-, -, hsnap⟩ := s.snapshot_eq h
    have hcoherent : snap.Coherent c.settings s.next := by
      rw [hsnap]
      exact c.coherent_sight _ _
    obtain ⟨hfailures, hlast⟩ := Step.kept_of_snapshot h
    refine ⟨Step.kind_of_snapshot h, hcoherent, hfailures, hlast, ?_⟩
    intro t attempt form ht hnext hu
    refine ⟨⟨?_, fun hrejecting => ?_⟩, fun r hr => (hu.of_rejected h hnext hr).2⟩
    · rintro ⟨r, hr⟩
      exact (hu.of_rejected h hnext hr).1
    · exact hu.rejects h hnext (hcoherent.rejecting.1 hrejecting) ht
  · intro move clock? events first last clock hw hclock hroomy hh s hs snap h hk
    exact (Dated.steps hw events (dated_initial hclock hroomy) hh s hs).timed hw h hk

end

namespace Bench

/-- A failure opens the circuit, and 40.5 ms later a snapshot is taken before an attempt. -/
def watched : List (Turn Unit String × Bench) :=
  [(.admission 0 .running, moved 0), (.recording 0 (.error "down"), moved 0),
    (.snapshot, moved 40500000), (.admission 1 .running, moved 40500000)]

end Bench

/-- Of a tenth of a second 59.5 ms are left, which the snapshot shows as 59 ms. -/
theorem snapshots_coherent_watched :
    let steps := Bench.brittle.steps (.initial : Memory String) Bench.watched
    let snap := Bench.brittle.sight steps[2].next (Bench.moved 40500000)
    steps[2].ended.result = .ok (.snapshot snap) ∧ Undisturbed steps[2] steps[3] ∧
      HandsOn Bench.move (Bench.moved 0) steps (Bench.moved 40500000) ∧
      snap.kind = .opened ∧ snap.remainingMillis = some 59 ∧
      (∃ r, steps[3].ended.result = .ok (.refused (.rejected r))) ∧
      ∃ opened, snap.Timed (.ofMillis 100) opened := by
  intro steps snap
  have hresult : steps[2].ended.result = .ok (.snapshot snap) := rfl
  have hundisturbed : Undisturbed steps[2] steps[3] :=
    ⟨fun _ => by decide, fun _ => by decide, fun _ => by decide⟩
  have hmoved : Drifts Bench.move (Bench.moved 0) (Bench.moved 40500000) :=
    Bench.drifts_moved (by decide) (by decide)
  have hhands : HandsOn Bench.move (Bench.moved 0) steps (Bench.moved 40500000) :=
    ⟨.refl, .refl, hmoved, .refl, .refl⟩
  have hk : snap.kind = .opened := by decide
  obtain ⟨hsnap, htimed⟩ := snapshots_coherent (α := Unit) (ε := String) Bench.brittle
  obtain ⟨-, hcoherent, -, -, hnext⟩ := hsnap steps[2] snap hresult
  refine ⟨hresult, hundisturbed, hhands, hk, by decide, ?_, ?_⟩
  · exact (hnext steps[3] 1 .running rfl rfl hundisturbed).1.2 (hcoherent.rejecting.2 hk)
  · exact htimed Bench.move Bench.manual? Bench.watched _ _ _ (Bench.byHand .empty) rfl Bench.roomy_start hhands
      steps[2] (by simp [steps, Circuit.steps, Bench.watched]) snap hresult hk

end CircuitBreaker
