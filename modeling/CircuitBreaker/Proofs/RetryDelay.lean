/-
How long to wait before the next attempt. The text of a rejection and the snapshot of an open circuit give the
rest of the cooldown in whole milliseconds, rounded down. Waiting for so long is too short unless the rest is a
whole number of milliseconds; one millisecond more is always enough.
-/
import CircuitBreaker.Proofs.Digits
import CircuitBreaker.Proofs.Snapshots
import Mathlib.Data.List.DropRight

namespace CircuitBreaker

/-! ## Numbers in a text -/

namespace Text

/-- After a blank, the decimal digits of a number are all the digits at the end of a text. -/
theorem rtakeWhile_decimalDigits (before : List Char) (n : Nat) :
    (before ++ ' ' :: decimalDigits n).rtakeWhile isDigit = decimalDigits n := by
  have hdigits : ∀ char ∈ (decimalDigits n).reverse, isDigit char = true := by
    intro char h
    exact isDigit_of_mem_fixedDigits (List.mem_reverse.1 h)
  unfold List.rtakeWhile
  rw [List.reverse_append, List.reverse_cons, List.append_assoc, List.takeWhile_append_of_pos hdigits]
  rw [List.singleton_append, List.takeWhile_cons_of_neg (by decide), List.append_nil, List.reverse_reverse]

end Text

/-- What stands at the end of the text of a rejection tells one number of milliseconds only. -/
theorem retry_inj {before before' : String} {millis millis' : Nat}
    (h : before ++ ("(retry in " ++ Text.ofNat millis ++ "ms)") =
      before' ++ ("(retry in " ++ Text.ofNat millis' ++ "ms)")) : millis = millis' := by
  have hblank : "(retry in ".toList = "(retry in".toList ++ [' '] := rfl
  have hlist := congrArg String.toList h
  simp only [String.toList_append, Text.ofNat, String.toList_ofList, hblank, ← List.append_assoc] at hlist
  have hdigits := List.append_cancel_right hlist
  simp only [List.append_assoc, List.singleton_append] at hdigits
  rw [← List.append_assoc, ← List.append_assoc] at hdigits
  have hsame := congrArg (List.rtakeWhile Text.isDigit) hdigits
  rw [Text.rtakeWhile_decimalDigits, Text.rtakeWhile_decimalDigits] at hsame
  rw [← Text.ofDigits_decimalDigits millis, hsame, Text.ofDigits_decimalDigits]

/-- The text of the rejection ends by asking its reader to try again in so many milliseconds. -/
def Rejection.Says {ε : Type} (r : Rejection ε) (millis : Nat) : Prop :=
  ∃ before, r.message = before ++ ("(retry in " ++ Text.ofNat millis ++ "ms)")

/-- The text gives the whole milliseconds of what is left of the cooldown. -/
theorem Rejection.says_iff {ε : Type} (r : Rejection ε) (millis : Nat) :
    r.Says millis ↔ millis = r.remaining.millis := by
  have hsplit : " open, attempt aborted (retry in " = " open, attempt aborted " ++ "(retry in " := rfl
  have happend (start digits : String) : start ++ " open, attempt aborted (retry in " ++ digits ++ "ms)" =
      (start ++ " open, attempt aborted ") ++ ("(retry in " ++ digits ++ "ms)") := by
    rw [hsplit]
    simp only [String.append_assoc]
  have hsays : r.Says r.remaining.millis := ⟨_, happend _ _⟩
  constructor
  · rintro ⟨before, h⟩
    obtain ⟨before', h'⟩ := hsays
    exact retry_inj (h.symm.trans h')
  · rintro rfl
    exact hsays

section

variable {α ε σ : Type} {c : Circuit σ} {move : ClockMove → σ → σ} {clock? : σ → Option ManualClock}

/-! ## Hints -/

/-- The step tells its client how many milliseconds are left: by the text of a rejection, or by the snapshot
of an open circuit. -/
inductive Step.Hints (s : Step c α ε) : Nat → Prop
  | text {r millis} (h : s.ended.result = .ok (.refused (.rejected r))) (hs : r.Says millis) : s.Hints millis
  | snapshot {snap millis} (h : s.ended.result = .ok (.snapshot snap))
      (hs : snap.remainingMillis = some millis) : s.Hints millis.toNat

/-- A hint is given where the circuit stays open. It tells what is left of the cooldown in whole
milliseconds, be it as it is or as a 64-bit number. -/
theorem Step.Hints.staysOpened {s : Step c α ε} {millis : Nat} (h : s.Hints millis) (hstill : s.Still) :
    ∃ entered wall, s.StaysOpened entered wall ∧
      (millis = (c.settings.cooldown - s.now.since entered).millis ∨
        millis = (c.settings.cooldown - s.now.since entered).millis64.toNat) := by
  have hreading : (c.world.now (c.world.now s.world).2).1 = s.now := hstill
  cases h with
  | text h hs =>
    obtain ⟨entered, wall, hopened, hleft⟩ := Step.staysOpened_of_rejected h
    refine ⟨entered, wall, hopened, Or.inl ?_⟩
    rw [(Rejection.says_iff _ _).1 hs, hleft, hreading]
  | @snapshot snap millis h hs =>
    obtain ⟨-, -, hsight⟩ := s.snapshot_eq h
    have hcoherent := c.coherent_sight s.next (c.heard s.memory s.world s.turn).2
    rw [← hsight] at hcoherent
    have hk : snap.kind = .opened := hcoherent.remaining.1 (by rw [hs]; rfl)
    obtain ⟨entered, wall, hopened, hsnap⟩ := Step.staysOpened_of_snapshot h hk
    refine ⟨entered, wall, hopened, Or.inr ?_⟩
    rw [hsnap, hopened.remaining_sight, hreading] at hs
    rw [Option.some.inj hs]

/-! ## The delay -/

/-- Right after the first step the clock is moved forward by a delay, which does not take it past its limit;
and the second step is an attempt that asks for admission then. -/
structure AttemptAfter (clock? : σ → Option ManualClock) (s : Step c α ε) (delay : Duration)
    (t : Step c α ε) : Prop where
  next : t.memory = s.next
  asks : ∃ attempt form, t.turn = .admission attempt form
  moved : ∃ clock, clock? s.ended.world = some clock ∧ clock.elapsed + delay ≤ ManualClock.maxOffset ∧
    clock? t.world = some (clock.advance delay)

theorem World.ByHand.still (hw : c.world.ByHand move clock?) {s : Step c α ε} {clock : ManualClock}
    (hc : clock? s.world = some clock) : s.Still := by
  obtain ⟨hfirst, hthen⟩ := hw.now hc
  exact (hw.now hthen).1.trans hfirst.symm

/-- Between the reading of a step that leaves the circuit open and that of an attempt after it passes the
delay. -/
theorem AttemptAfter.now_eq {s t : Step c α ε} {delay : Duration} {entered : Instant} {wall : Timestamp}
    (h : AttemptAfter clock? s delay t) (hw : c.world.ByHand move clock?)
    (hd : Dated clock? s.memory s.world) (hs : s.StaysOpened entered wall) :
    entered.nanos ≤ s.now.nanos ∧ t.now.nanos = s.now.nanos + delay.nanos := by
  obtain ⟨clock, hclock, hroomy, hopened⟩ := hd
  obtain ⟨earlier, hr, hadvances, rfl, -⟩ := hopened entered wall hs.before
  obtain ⟨clock', hclock', hroom, hmoved⟩ := h.moved
  obtain rfl : clock = clock' := by
    have hsame := hw.reads.call_of_stays hs.stays clock hclock
    exact Option.some.inj (hsame.symm.trans hclock')
  have hnow : s.now = clock.now := (hw.now hclock).1
  have hlater : t.now = (clock.advance delay).now := (hw.now hmoved).1
  have helapsed := congrArg Duration.nanos (ManualClock.elapsed_advance hroom)
  rw [Duration.nanos_add] at helapsed
  rw [hnow, hlater, hroomy.nanos_now, (hroomy.advance delay).1.nanos_now, helapsed]
  constructor
  · rw [← hroomy.nanos_now]
    exact (hadvances.apart hr).1
  · show clock.origin.nanos + (clock.elapsed.nanos + delay.nanos) = _
    omega

/-- An attempt after a delay is admitted exactly if the rest of the cooldown is no longer than that. -/
theorem AttemptAfter.admits_iff {s t : Step c α ε} {delay : Duration} {entered : Instant} {wall : Timestamp}
    (h : AttemptAfter clock? s delay t) (hw : c.world.ByHand move clock?) (hl : c.world.Returns)
    (hd : Dated clock? s.memory s.world) (hs : s.StaysOpened entered wall) :
    (∃ attempt, t.Admits attempt) ↔ c.settings.cooldown - s.now.since entered ≤ delay := by
  obtain ⟨hbefore, hnow⟩ := h.now_eq hw hd hs
  obtain ⟨attempt, form, hturn⟩ := h.asks
  have hopened : t.memory.state = .opened entered wall := by rw [h.next, hs.after]
  have hearly := hs.early
  rw [Duration.le_def, Instant.nanos_since] at hearly
  have hpassed : c.settings.cooldown - s.now.since entered ≤ delay ↔
      c.settings.cooldown ≤ t.now.since entered := by
    rw [Duration.le_def, Duration.le_def, Duration.nanos_sub, Instant.nanos_since, Instant.nanos_since]
    omega
  rw [hpassed]
  constructor
  · rintro ⟨asked, ⟨_, hasked⟩, hwaits⟩
    by_contra hc
    have hr := Turn.refused_of_opened c (α := α) hopened hc attempt form
    rw [← hturn] at hr
    cases hr.symm.trans hwaits
  · intro hc
    have hpromotes := Step.promotes_of_passed hopened (by rw [hturn]; rfl) hc (hl.told _ _)
    exact ⟨attempt, hpromotes.admits attempt form hturn⟩

/-! ## Is the hint long enough? -/

/-- Waiting for as long as a hint tells is always enough: in every run on a clock that is moved by hand, the
attempt right after the delay is admitted. -/
def HintsSuffice (c : Circuit σ) (move : ClockMove → σ → σ) (clock? : σ → Option ManualClock)
    (α ε : Type) : Prop :=
  ∀ (events : List (Turn α ε × σ)) (first last : σ) (clock : ManualClock) (before : List (Step c α ε))
    (s t : Step c α ε) (after : List (Step c α ε)) (millis : Nat),
    clock? first = some clock → clock.Roomy → HandsOn move first (c.steps .initial events) last →
    c.steps .initial events = before ++ s :: t :: after → s.Hints millis →
    AttemptAfter clock? s (.ofMillis millis) t → ∃ attempt, t.Admits attempt

/-- A hint below the largest 64-bit number is the whole milliseconds that are left. -/
theorem Duration.millis_eq_of_hint {d : Duration} {millis : Nat}
    (h : millis = d.millis ∨ millis = d.millis64.toNat) (hm : Duration.ofMillis millis ≤ ManualClock.maxOffset) :
    millis = d.millis := by
  have hnanos : millis * 1000000 ≤ 100 * 365 * 24 * 60 * 60 * 1000000000 := hm
  have hsize : UInt64.size = 18446744073709551616 := rfl
  rcases h with h | h
  · exact h
  · rw [toNat_millis64] at h
    omega

end

namespace Bench

/-- A failure opens the circuit. An attempt half a millisecond later is told to try again in 99 ms, and an
attempt is made when these have passed. -/
def hurried : List (Turn Unit String × Bench) :=
  [(.admission 0 .running, moved 0), (.recording 0 (.error "down"), moved 0),
    (.admission 1 .running, moved 500000), (.admission 2 .running, moved 99500000)]

theorem handsOn_hurried :
    HandsOn Bench.move (moved 0) (brittle.steps (.initial : Memory String) hurried) (moved 99500000) := by
  have hfirst : Drifts Bench.move (moved 0) (moved 500000) := drifts_moved (by decide) (by decide)
  have hthen : Drifts Bench.move (moved 500000) (moved 99500000) := drifts_moved (by decide) (by decide)
  exact ⟨.refl, .refl, hfirst, hthen, .refl⟩

theorem hints_hurried :
    let steps := brittle.steps (.initial : Memory String) hurried
    steps[2].Hints 99 := by
  intro steps
  let r : Rejection String := ⟨none, some "down", .ofMillis 100 - (⟨500000⟩ : Instant).since ⟨0⟩⟩
  have hresult : steps[2].ended.result = .ok (.refused (.rejected r)) := rfl
  exact .text hresult ((r.says_iff 99).2 (by decide))

end Bench

/-- What the text of a rejection tells is too short: half a millisecond of the cooldown is still left. -/
theorem hinted_delay_too_short : ¬ HintsSuffice Bench.brittle Bench.move Bench.manual? Unit String := by
  intro h
  let steps := Bench.brittle.steps (.initial : Memory String) Bench.hurried
  have hafter : AttemptAfter Bench.manual? steps[2] (.ofMillis 99) steps[3] :=
    ⟨rfl, ⟨2, .running, rfl⟩, _, rfl, by decide, rfl⟩
  obtain ⟨attempt, -, hwaits⟩ := h Bench.hurried _ _ _ (steps.take 2) steps[2] steps[3] [] 99 rfl
    Bench.roomy_start Bench.handsOn_hurried rfl Bench.hints_hurried hafter
  exact absurd (waits_iff.2 hwaits) (by decide)

/-- How long to wait after a hint. In every run on a clock that is moved by hand, where listeners do not panic,
a step that gives a hint has found the circuit open. An attempt after a delay, with nothing but the clock
moved in between, is admitted exactly if the delay is no shorter than what was left of the cooldown. So the
milliseconds of the hint are enough exactly if so many were left to the nanosecond, and one more is enough
in any case. -/
theorem retry_delay_exact {α ε σ : Type} (c : Circuit σ) (move : ClockMove → σ → σ)
    (clock? : σ → Option ManualClock) (hw : c.world.ByHand move clock?) (hl : c.world.Returns)
    (events : List (Turn α ε × σ)) (first last : σ) (clock : ManualClock) (hc : clock? first = some clock)
    (hr : clock.Roomy) (hh : HandsOn move first (c.steps .initial events) last) (s : Step c α ε)
    (hs : s ∈ c.steps .initial events) (millis : Nat) (hhint : s.Hints millis) :
    ∃ left, s.memory.state.remaining s.now c.settings.cooldown = some left ∧
      (∀ delay t, AttemptAfter clock? s delay t → ((∃ attempt, t.Admits attempt) ↔ left ≤ delay)) ∧
      (∀ t, AttemptAfter clock? s (.ofMillis millis) t →
        ((∃ attempt, t.Admits attempt) ↔ left = .ofMillis millis)) ∧
      ∀ t, AttemptAfter clock? s (.ofMillis (millis + 1)) t → ∃ attempt, t.Admits attempt := by
  have hd : Dated clock? s.memory s.world := Dated.steps hw events (dated_initial hc hr) hh s hs
  obtain ⟨clock', hclock, -, -⟩ := id hd
  obtain ⟨entered, wall, hopened, hmillis⟩ := hhint.staysOpened (hw.still hclock)
  let left := c.settings.cooldown - s.now.since entered
  have hadmits (delay : Duration) (t : Step c α ε) (h : AttemptAfter clock? s delay t) :
      (∃ attempt, t.Admits attempt) ↔ left ≤ delay :=
    h.admits_iff hw hl hd hopened
  -- a delay that the clock has room for is below the largest 64-bit number
  have hroom (delay : Duration) (t : Step c α ε) (h : AttemptAfter clock? s delay t) :
      delay ≤ ManualClock.maxOffset := by
    obtain ⟨clock, -, hle, -⟩ := h.moved
    rw [Duration.le_def, Duration.nanos_add] at hle
    rw [Duration.le_def]
    omega
  refine ⟨left, by rw [hopened.before]; rfl, hadmits, fun t h => ?_, fun t h => ?_⟩
  · have hwhole : millis = left.nanos / 1000000 := Duration.millis_eq_of_hint hmillis (hroom _ t h)
    rw [hadmits _ t h, Duration.le_def, Duration.nanos_ofMillis]
    constructor
    · intro hle
      refine congrArg Duration.mk ?_
      show left.nanos = millis * 1000000
      omega
    · intro hleft
      rw [hleft, Duration.nanos_ofMillis]
  · have hwhole : millis = left.nanos / 1000000 :=
      Duration.millis_eq_of_hint hmillis (Duration.ofMillis_le_of_le (hroom _ t h) (Nat.le_succ millis))
    rw [hadmits _ t h, Duration.le_def, Duration.nanos_ofMillis]
    omega

/-- The attempt in `Bench.hurried` that is told 99 ms would have been admitted after a tenth of a second. -/
theorem retry_delay_exact_hurried :
    let steps := Bench.brittle.steps (.initial : Memory String) Bench.hurried
    let t : Step Bench.brittle Unit String := ⟨.admission 3 .running, steps[2].next, Bench.moved 100500000⟩
    steps[2].Hints 99 ∧ AttemptAfter Bench.manual? steps[2] (.ofMillis 100) t ∧ ∃ attempt, t.Admits attempt := by
  intro steps t
  have hafter : AttemptAfter Bench.manual? steps[2] (.ofMillis 100) t :=
    ⟨rfl, ⟨3, .running, rfl⟩, _, rfl, by decide, rfl⟩
  obtain ⟨left, -, -, -, hmore⟩ := retry_delay_exact Bench.brittle Bench.move Bench.manual? (Bench.byHand .empty)
    (fun kind bench => by cases kind <;> rfl) Bench.hurried _ _ _ rfl Bench.roomy_start Bench.handsOn_hurried
    steps[2] (by simp [steps, Circuit.steps, Bench.hurried]) 99 Bench.hints_hurried
  exact ⟨Bench.hints_hurried, hafter, hmore t hafter⟩

end CircuitBreaker
