/-
Surroundings with a clock that is moved by hand. Nothing but clients and listeners moves it, and it only
goes forward. So a run finds every open state as it was entered at an earlier moment of the same clock, and
the time since then is the same on both scales of the clock.
-/
import CircuitBreaker.Proofs.Gate
import CircuitBreaker.Proofs.Mirror

namespace CircuitBreaker

/-! ## Points of universal time -/

namespace Timestamp

/-- The nanoseconds since the start of 1970. -/
def nanosSinceEpoch (t : Timestamp) : Int := t.seconds * 1000000000 + t.nanos

/-- The time between two points, if the second one is not the earlier one. -/
theorem nanos_since (t start : Timestamp) :
    (t.since start).nanos = (t.nanosSinceEpoch - start.nanosSinceEpoch).toNat := by
  show ((t.seconds - start.seconds) * 1000000000 + t.nanos - start.nanos).toNat = _
  unfold nanosSinceEpoch
  congr 1
  omega

theorem nanosSinceEpoch_add? {t later : Timestamp} {d : Duration} (h : t.add? d = some later) :
    later.nanosSinceEpoch = t.nanosSinceEpoch + d.nanos := by
  unfold add? of? at h
  dsimp only at h
  split at h
  · cases h
    unfold nanosSinceEpoch
    dsimp only
    omega
  · cases h

/-- Where a longer time can be added, a shorter one can. -/
theorem isSome_add?_of_le {t : Timestamp} {d d' : Duration} (h : (t.add? d').isSome = true) (hd : d ≤ d') :
    (t.add? d).isSome = true := by
  have hle : d.nanos ≤ d'.nanos := hd
  have hfirst := t.representable.1
  unfold add? of? at h ⊢
  dsimp only at h ⊢
  split at h
  · next hlater =>
    rw [dif_pos]
    · rfl
    · refine ⟨?_, ?_, Or.inl (Nat.mod_lt _ (by decide))⟩
      · omega
      · have := hlater.2.1
        omega
  · cases h

end Timestamp

/-! ## A clock that is moved by hand -/

namespace ManualClock

/-- The clock can be moved up to its limit, on both scales, and has not been moved further. -/
structure Roomy (clock : ManualClock) : Prop where
  far : (clock.origin.add? maxOffset).isSome = true
  wallFar : (clock.wallOrigin.add? maxOffset).isSome = true
  within : clock.elapsed ≤ maxOffset

/-- The second clock is the first one after it has been moved forward any number of times. -/
def Advances : ManualClock → ManualClock → Prop :=
  Relation.ReflTransGen fun clock clock' => ∃ step, clock' = clock.advance step

theorem Roomy.start {origin : Instant} {wallOrigin : Timestamp}
    (hfar : (origin.add? maxOffset).isSome = true) (hwall : (wallOrigin.add? maxOffset).isSome = true) :
    (start origin wallOrigin).Roomy :=
  ⟨hfar, hwall, Nat.zero_le _⟩

theorem Roomy.advance {clock : ManualClock} (h : clock.Roomy) (step : Duration) :
    (clock.advance step).Roomy ∧ clock.elapsed ≤ (clock.advance step).elapsed := by
  have hwithin := Duration.le_def.1 h.within
  refine ⟨⟨h.far, h.wallFar, ?_⟩, ?_⟩
  · rw [Duration.le_def, ManualClock.advance, moved, Duration.nanos_min]
    omega
  · rw [Duration.le_def, ManualClock.advance, moved, Duration.nanos_min, Duration.nanos_add]
    omega

/-- Up to its limit a clock is moved by as much as it is told to be. -/
theorem elapsed_advance {clock : ManualClock} {step : Duration} (h : clock.elapsed + step ≤ maxOffset) :
    (clock.advance step).elapsed = clock.elapsed + step := by
  have hmin : min (clock.elapsed.nanos + step.nanos) maxOffset.nanos = clock.elapsed.nanos + step.nanos :=
    Nat.min_eq_left (Duration.le_def.1 h)
  exact congrArg Duration.mk hmin

theorem Advances.trans {first between last : ManualClock} (h : first.Advances between)
    (h' : between.Advances last) : first.Advances last :=
  Relation.ReflTransGen.trans h h'

/-- A clock that has been moved is the same clock later. -/
theorem Advances.later {clock clock' : ManualClock} (h : clock.Advances clock') (hr : clock.Roomy) :
    clock'.Roomy ∧ clock'.origin = clock.origin ∧ clock'.wallOrigin = clock.wallOrigin ∧
      clock.elapsed ≤ clock'.elapsed := by
  induction h with
  | refl => exact ⟨hr, rfl, rfl, Nat.le_refl _⟩
  | tail _ hstep ih =>
    obtain ⟨step, rfl⟩ := hstep
    obtain ⟨hroomy, horigin, hwall, hle⟩ := ih
    obtain ⟨hroomy', hle'⟩ := hroomy.advance step
    exact ⟨hroomy', horigin, hwall, Nat.le_trans hle hle'⟩

theorem Roomy.nanos_now {clock : ManualClock} (h : clock.Roomy) :
    clock.now.nanos = clock.origin.nanos + clock.elapsed.nanos :=
  congrArg Instant.nanos (now_of_le h.far h.within)

theorem Roomy.nanos_wallNow {clock : ManualClock} (h : clock.Roomy) :
    clock.wallNow.nanosSinceEpoch = clock.wallOrigin.nanosSinceEpoch + clock.elapsed.nanos := by
  obtain ⟨later, hl⟩ := Option.isSome_iff_exists.1 (Timestamp.isSome_add?_of_le h.wallFar h.within)
  rw [wallNow, hl]
  exact Timestamp.nanosSinceEpoch_add? hl

/-- Between two moments of a clock as much time passes on one scale as on the other. -/
theorem Advances.apart {clock clock' : ManualClock} (h : clock.Advances clock') (hr : clock.Roomy) :
    clock.now.nanos ≤ clock'.now.nanos ∧
      clock'.wallNow.nanosSinceEpoch - clock.wallNow.nanosSinceEpoch =
        (clock'.now.nanos - clock.now.nanos : Int) := by
  obtain ⟨hr', horigin, hwall, hle⟩ := h.later hr
  have hle := Duration.le_def.1 hle
  rw [hr.nanos_now, hr'.nanos_now, hr.nanos_wallNow, hr'.nanos_wallNow, horigin, hwall]
  constructor
  · omega
  · omega

end ManualClock

/-! ## Surroundings that carry such a clock -/

variable {α ε σ : Type} {c : Circuit σ} {move : ClockMove → σ → σ} {clock? : σ → Option ManualClock}

/-- The clock of the one surroundings is that of the other, moved forward perhaps. -/
def Carries (clock? : σ → Option ManualClock) (before after : σ) : Prop :=
  ∀ clock, clock? before = some clock → ∃ clock', clock? after = some clock' ∧ clock.Advances clock'

theorem Carries.refl (world : σ) : Carries clock? world world :=
  fun clock h => ⟨clock, h, Relation.ReflTransGen.refl⟩

theorem Carries.trans {first between last : σ} (h : Carries clock? first between)
    (h' : Carries clock? between last) : Carries clock? first last := by
  intro clock hc
  obtain ⟨clock', hc', hmoved⟩ := h clock hc
  obtain ⟨clock'', hc'', hmoved'⟩ := h' clock' hc'
  exact ⟨clock'', hc'', hmoved.trans hmoved'⟩

/-- The surroundings show a clock that is moved by hand: readings leave it alone, and listeners and clients
only move it forward. -/
structure World.ByHand (w : World σ) (move : ClockMove → σ → σ) (clock? : σ → Option ManualClock) : Prop where
  now : ∀ {world clock}, clock? world = some clock →
    (w.now world).1 = clock.now ∧ clock? (w.now world).2 = some clock
  wall : ∀ {world clock}, clock? world = some clock →
    (w.wall world).1 = clock.wallNow ∧ clock? (w.wall world).2 = some clock
  notify : ∀ kind world, Carries clock? world (w.notify kind world).2
  move : ∀ m world, Carries clock? world (move m world)

namespace World.ByHand

/-- Readings leave the clock as it is. -/
theorem reads (h : c.world.ByHand move clock?) :
    c.world.Reads fun before after => ∀ clock, clock? before = some clock → clock? after = some clock :=
  ⟨fun _ _ hc => hc, fun hab hbd clock hc => hbd clock (hab clock hc), fun _ _ hc => (h.now hc).2,
    fun _ _ hc => (h.wall hc).2⟩

theorem leads (h : c.world.ByHand move clock?) : c.world.Leads (Carries clock?) :=
  ⟨⟨Carries.refl, Carries.trans, fun _ clock hc => ⟨clock, (h.now hc).2, Relation.ReflTransGen.refl⟩,
    fun _ clock hc => ⟨clock, (h.wall hc).2, Relation.ReflTransGen.refl⟩⟩, h.notify⟩

theorem drifts (h : c.world.ByHand move clock?) {first last : σ} (hd : Drifts move first last) :
    Carries clock? first last := by
  induction hd with
  | refl => exact Carries.refl first
  | tail _ hstep ih =>
    obtain ⟨m, rfl⟩ := hstep
    exact ih.trans (h.move m _)

theorem wallAfterNow (h : c.world.ByHand move clock?) {world : σ} {clock : ManualClock}
    (hc : clock? world = some clock) : c.wallAfterNow world = clock.wallNow :=
  (h.wall (h.now hc).2).1

end World.ByHand

/-! ## Open states on such a clock -/

/-- The surroundings carry a roomy clock, and an open state was entered at an earlier moment of it. -/
def Dated (clock? : σ → Option ManualClock) (memory : Memory ε) (world : σ) : Prop :=
  ∃ clock, clock? world = some clock ∧ clock.Roomy ∧
    ∀ entered wall, memory.state = .opened entered wall →
      ∃ earlier : ManualClock, earlier.Roomy ∧ earlier.Advances clock ∧
        entered = earlier.now ∧ wall = earlier.wallNow

theorem Dated.carry {memory : Memory ε} {world world' : σ} (h : Dated clock? memory world)
    (hw : Carries clock? world world') : Dated clock? memory world' := by
  obtain ⟨clock, hc, hroomy, hopened⟩ := h
  obtain ⟨clock', hc', hmoved⟩ := hw clock hc
  refine ⟨clock', hc', (hmoved.later hroomy).1, fun entered wall hs => ?_⟩
  obtain ⟨earlier, hr, hadvances, hentered, hwall⟩ := hopened entered wall hs
  exact ⟨earlier, hr, hadvances.trans hmoved, hentered, hwall⟩

/-- A step that enters an open state enters it at its own moment. -/
theorem Dated.step {s : Step c α ε} (h : Dated clock? s.memory s.world) (hw : c.world.ByHand move clock?) :
    Dated clock? s.next s.ended.world := by
  have hcarries : Carries clock? s.world s.ended.world := hw.leads.call s.turn s.memory s.world
  cases he : s.entered? with
  | none =>
    obtain ⟨clock, hc, hroomy, hopened⟩ := h.carry hcarries
    refine ⟨clock, hc, hroomy, fun entered wall hs => hopened entered wall ?_⟩
    rw [← (s.state_of_entered?_none he).2]
    exact hs
  | some kind =>
    obtain ⟨clock, hc, hroomy, -⟩ := h
    obtain ⟨clock', hc', hmoved⟩ := hcarries clock hc
    refine ⟨clock', hc', (hmoved.later hroomy).1, fun entered wall hs => ?_⟩
    obtain rfl : kind = .opened := by
      rw [← (s.kind_of_entered? he).1, hs]
      rfl
    have hentered := Step.opened_of_entered? he
    rw [hs, hw.wallAfterNow hc, show s.now = clock.now from (hw.now hc).1] at hentered
    obtain ⟨rfl, rfl⟩ := State.opened.inj hentered
    exact ⟨clock, hroomy, hmoved, rfl, rfl⟩

/-- Through a whole run every step finds an open state that was entered at an earlier moment. -/
theorem Dated.steps (hw : c.world.ByHand move clock?) (events : List (Turn α ε × σ)) {memory : Memory ε}
    {first last : σ} (h : Dated clock? memory first) (hh : HandsOn move first (c.steps memory events) last) :
    ∀ s ∈ c.steps memory events, Dated clock? s.memory s.world := by
  induction events generalizing memory first with
  | nil => exact fun s hs => absurd hs List.not_mem_nil
  | cons event events ih =>
    obtain ⟨hdrift, hrest⟩ := hh
    let s : Step c α ε := ⟨event.1, memory, event.2⟩
    have hfirst : Dated clock? s.memory s.world := h.carry (hw.drifts hdrift)
    exact List.forall_mem_cons.2 ⟨hfirst, ih (hfirst.step hw) hrest⟩

theorem dated_initial {first : σ} {clock : ManualClock} (hc : clock? first = some clock)
    (hr : clock.Roomy) : Dated clock? (.initial : Memory ε) first := by
  refine ⟨clock, hc, hr, fun entered wall hs => ?_⟩
  cases hs

/-! ## Benches -/

namespace Bench

/-- The clock of a bench that is moved forward by hand. -/
def manual? (bench : Bench) : Option ManualClock :=
  match bench.clock with
  | .manual clock => some clock
  | _ => none

theorem carries_move (m : ClockMove) (bench : Bench) : Carries manual? bench (bench.move m) := by
  obtain ⟨clock, runs⟩ := bench
  intro shown hc
  cases clock with
  | manual clock =>
    obtain rfl : clock = shown := Option.some.inj hc
    cases m with
    | advance step => exact ⟨_, rfl, Relation.ReflTransGen.single ⟨step, rfl⟩⟩
    | set | sleep => exact ⟨_, rfl, Relation.ReflTransGen.refl⟩
  | scripted | sleeping => cases hc

theorem carries_run (listener : BenchListener) (bench : Bench) : Carries manual? bench (run listener bench).2 := by
  obtain ⟨clock, runs⟩ := bench
  obtain ⟨id, tag, looks, advances, panicsOn⟩ := listener
  cases advances with
  | none => exact fun clock hc => ⟨clock, hc, Relation.ReflTransGen.refl⟩
  | some step => exact carries_move (.advance step) ⟨clock, runs⟩

/-- Whatever its listeners do, the clock of a bench is moved by hand. -/
theorem byHand (listeners : Listeners BenchListener) : (world listeners).ByHand Bench.move manual? := by
  refine ⟨fun {bench clock} hc => ?_, fun {bench clock} hc => ?_, fun kind bench => ?_, carries_move⟩
  · refine ⟨?_, hc⟩
    obtain ⟨shown, runs⟩ := bench
    cases shown with
    | manual clock' =>
      obtain rfl : clock' = clock := Option.some.inj hc
      rfl
    | scripted | sleeping => cases hc
  · refine ⟨?_, hc⟩
    obtain ⟨shown, runs⟩ := bench
    cases shown with
    | manual clock' =>
      obtain rfl : clock' = clock := Option.some.inj hc
      rfl
    | scripted | sleeping => cases hc
  · unfold world
    dsimp only
    cases listeners.get kind with
    | none => exact Carries.refl bench
    | some listener => exact carries_run listener bench

/-- A circuit breaker without listeners that opens at the first failure, for a tenth of a second. -/
def brittle : Circuit Bench :=
  ⟨{ fragile.settings with cooldown := .ofMillis 100, cooldown_ge := by decide }, world .empty⟩

/-- Its surroundings when the clock has been moved so far by hand. -/
def moved (nanos : Nat) : Bench := ⟨.manual ⟨⟨0⟩, .epoch, ⟨nanos⟩⟩, []⟩

theorem roomy_start : (ManualClock.start ⟨0⟩ .epoch).Roomy := .start (by decide) (by decide)

theorem drifts_moved {nanos later : Nat} (hle : nanos ≤ later) (h : later ≤ ManualClock.maxOffset.nanos) :
    Drifts Bench.move (moved nanos) (moved later) := by
  have hsum : (⟨nanos⟩ + ⟨later - nanos⟩ : Duration) = ⟨later⟩ := congrArg Duration.mk (Nat.add_sub_cancel' hle)
  have hclock : (⟨⟨0⟩, .epoch, ⟨nanos⟩⟩ : ManualClock).advance ⟨later - nanos⟩ = ⟨⟨0⟩, .epoch, ⟨later⟩⟩ := by
    refine congrArg (ManualClock.mk ⟨0⟩ .epoch) ((ManualClock.elapsed_advance ?_).trans hsum)
    show (⟨nanos⟩ + ⟨later - nanos⟩ : Duration) ≤ _
    rw [hsum]
    exact h
  have hmove : moved later = (moved nanos).move (.advance ⟨later - nanos⟩) :=
    congrArg (fun clock => Bench.mk (.manual clock) []) hclock.symm
  rw [hmove]
  exact Drifts.single _ _

end Bench

end CircuitBreaker
