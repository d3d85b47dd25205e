/-
What is left of a cooldown, to the nanosecond. Whether an open circuit turns half-open and how much of
its cooldown is left are found by two readings of the clock. On a clock that never goes backwards and
stands still within a call the two agree: a rejection tells how long it takes until the next call turns
the circuit half-open, and until then every further rejection tells the rest of that time.
-/
import CircuitBreaker.Proofs.Faithful
import CircuitBreaker.Proofs.Gate
import CircuitBreaker.Proofs.Laziness
import CircuitBreaker.Proofs.Probes

namespace CircuitBreaker

/-! ## At one reading -/

/-- A state turns half-open exactly where it is open and nothing is left of its cooldown. -/
theorem State.refresh_eq_halfOpen_iff (state : State) (now : Instant) (cooldown : Duration) :
    state.refresh now cooldown = some .halfOpen ↔ state.remaining now cooldown = some .zero := by
  cases state with
  | closed => exact ⟨nofun, nofun⟩
  | halfOpen => exact ⟨nofun, nofun⟩
  | opened entered wall =>
    have hleft : cooldown - now.since entered = .zero ↔ cooldown ≤ now.since entered := by
      rw [Duration.le_def, Duration.mk.injEq]
      exact Nat.sub_eq_zero_iff_le
    unfold refresh remaining
    rw [Option.some.injEq, hleft]
    by_cases h : cooldown ≤ now.since entered
    · simp [h]
    · simp [h]

section

variable {α ε σ : Type} {c : Circuit σ}

/-! ## Steady clocks -/

/-- The clock shows the same when it is read once more. -/
def Step.Still (s : Step c α ε) : Prop := (c.world.now (c.world.now s.world).2).1 = s.now

instance (s : Step c α ε) : Decidable s.Still := inferInstanceAs (Decidable (_ = _))

/-- The clock never goes backwards from a step to a later one, and stands still within a step. -/
structure Steady (steps : List (Step c α ε)) : Prop where
  forwards : steps.Pairwise fun s t => s.now.nanos ≤ t.now.nanos
  still : ∀ s ∈ steps, s.Still

theorem Steady.le {before later : List (Step c α ε)} {s : Step c α ε} (h : Steady (before ++ s :: later)) :
    (∀ t ∈ before, t.now.nanos ≤ s.now.nanos) ∧ ∀ t ∈ later, s.now.nanos ≤ t.now.nanos := by
  obtain ⟨-, hlater, hbefore⟩ := List.pairwise_append.1 h.forwards
  refine ⟨fun t ht => hbefore t ht s List.mem_cons_self, ?_⟩
  exact (List.pairwise_cons.1 hlater).1

/-! ## A rejection -/

/-- The step finds the circuit open before the cooldown has passed, and leaves it so. -/
structure Step.StaysOpened (s : Step c α ε) (entered : Instant) (wall : Timestamp) : Prop where
  before : s.memory.state = .opened entered wall
  after : s.next.state = .opened entered wall
  early : ¬ c.settings.cooldown ≤ s.now.since entered
  stays : c.target s.memory s.world s.turn = none

/-- No listener runs where the circuit stays open. -/
theorem Step.StaysOpened.fired_eq_nil {s : Step c α ε} {entered : Instant} {wall : Timestamp}
    (h : s.StaysOpened entered wall) : fired s.notes = [] := by
  rw [s.fired_notes, s.entered?_eq, h.stays]
  rfl

/-- A refresh that leaves the circuit open has found it so. -/
theorem Step.staysOpened_of_refreshes {s : Step c α ε} (hr : s.turn.refreshes = true)
    (hk : s.next.state.kind = .opened) : ∃ entered wall, s.StaysOpened entered wall := by
  have hstate : s.next.state = (c.target s.memory s.world s.turn).getD s.memory.state :=
    Turn.state_call c s.turn s.memory s.world
  cases ht : c.target s.memory s.world s.turn with
  | some next =>
    rw [c.target_of_refreshes hr] at ht
    obtain ⟨-, rfl⟩ := State.refresh_eq_some ht
    rw [hstate, c.target_of_refreshes hr, ht] at hk
    cases hk
  | none =>
    rw [ht, Option.getD_none] at hstate
    cases hs : s.memory.state with
    | closed | halfOpen => rw [hstate, hs] at hk; cases hk
    | opened entered wall =>
      refine ⟨entered, wall, hs, hstate.trans hs, fun hc => ?_, ht⟩
      rw [c.target_of_refreshes hr, hs] at ht
      cases (if_pos hc).symm.trans ht

/-- An attempt is rejected where the circuit stays open, and told what is left of the cooldown at the
second reading. -/
theorem Step.staysOpened_of_rejected {s : Step c α ε} {r : Rejection ε}
    (h : s.ended.result = .ok (.refused (.rejected r))) :
    ∃ entered wall, s.StaysOpened entered wall ∧
      r.remaining = c.settings.cooldown - (c.world.now (c.world.now s.world).2).1.since entered := by
  obtain ⟨attempt, form, hturn⟩ := Turn.admission_of_rejected c h
  have hk : s.next.state.kind = .opened := by
    cases hh : (c.heard s.memory s.world (.admission attempt form : Turn α ε)).1 with
    | some text =>
      have hpanics := (Turn.result_eq_error_iff c).2 hh
      rw [← hturn] at hpanics
      cases hpanics.symm.trans h
    | none =>
      have hends := Turn.admission_returns c hh
      rw [← hturn] at hends
      rcases hends with ⟨hw, -⟩ | ⟨r', -, -, hm, hk⟩
      · cases hw.symm.trans h
      · rw [← hm] at hk
        exact hk
  obtain ⟨entered, wall, hs⟩ := Step.staysOpened_of_refreshes (by rw [hturn]; rfl) hk
  refine ⟨entered, wall, hs, ?_⟩
  have hrefused := Turn.refused_of_opened c (α := α) hs.before hs.early attempt form
  rw [← hturn] at hrefused
  cases hrefused.symm.trans h
  rfl

/-- A rejection from a state that was entered at `entered`: what it says to be left is the cooldown less
the time since then, and that is more than nothing. -/
structure Step.RejectsSince (s : Step c α ε) (r : Rejection ε) (entered : Instant) : Prop where
  state : ∃ wall, s.memory.state = .opened entered wall
  before : entered.nanos ≤ s.now.nanos
  exact : r.remaining = c.settings.cooldown - s.now.since entered
  pos : 0 < r.remaining.nanos
  le : r.remaining ≤ c.settings.cooldown

/-- The rejection tells when the cooldown ends. -/
theorem Step.RejectsSince.ends {s : Step c α ε} {r : Rejection ε} {entered : Instant}
    (h : s.RejectsSince r entered) :
    s.now.nanos + r.remaining.nanos = entered.nanos + c.settings.cooldown.nanos := by
  have hexact := congrArg Duration.nanos h.exact
  have hbefore := h.before
  have hpos := h.pos
  rw [Duration.nanos_sub, Instant.nanos_since] at hexact
  omega

theorem Steady.rejectsSince {events : List (Turn α ε × σ)} {before later : List (Step c α ε)}
    {s : Step c α ε} {r : Rejection ε} (h : Steady (c.steps .initial events))
    (hsplit : c.steps .initial events = before ++ s :: later)
    (hr : s.ended.result = .ok (.refused (.rejected r))) :
    ∃ early entry period, Since .opened before early entry period ∧ s.RejectsSince r entry.now := by
  obtain ⟨entered, wall, hs, hleft⟩ := Step.staysOpened_of_rejected hr
  obtain ⟨beforehand, -, -, rfl, hm, -⟩ := c.steps_eq_append hsplit
  have hk : (c.after .initial beforehand).state.kind = .opened := by
    rw [← hm, hs.before]
    rfl
  have hclosed : (Memory.initial : Memory ε).state.kind ≠ .opened := nofun
  obtain ⟨early, entry, period, hsince⟩ := exists_since beforehand hclosed hk
  have hentered := hsince.state_after
  rw [← hm, hs.before, Step.opened_of_entered? hsince.enters] at hentered
  obtain ⟨rfl, -⟩ := State.opened.inj hentered
  rw [hsplit] at h
  have hstill : (c.world.now (c.world.now s.world).2).1 = s.now :=
    h.still s (List.mem_append_right _ List.mem_cons_self)
  rw [hstill] at hleft
  have hentry : entry ∈ c.steps .initial beforehand := by
    rw [hsince.split]
    exact List.mem_append_right _ List.mem_cons_self
  have hearly := hs.early
  have hnanos := congrArg Duration.nanos hleft
  rw [Duration.le_def, Instant.nanos_since] at hearly
  rw [Duration.nanos_sub, Instant.nanos_since] at hnanos
  refine ⟨early, entry, period, hsince, ⟨_, hs.before⟩, h.le.1 entry hentry, hleft, ?_, ?_⟩
  · omega
  · rw [Duration.le_def]
    omega

/-! ## Until the cooldown ends, and then -/

/-- A refresh turns the circuit half-open, runs the listener for that, and the call is answered so: an
attempt is admitted, and a query tells of a half-open circuit. -/
structure Step.Promotes (s : Step c α ε) : Prop where
  state : s.next.state = .halfOpen
  told : fired s.notes = [.halfOpen]
  admits : ∀ attempt form, s.turn = .admission attempt form → s.Admits attempt
  kind : s.turn = .kind → s.ended.result = .ok (.kind .halfOpen)
  snapshot : s.turn = .snapshot → ∃ view, s.ended.result = .ok (.snapshot view) ∧ view.kind = .halfOpen

theorem Step.promotes_of_passed {s : Step c α ε} {entered : Instant} {wall : Timestamp}
    (hs : s.memory.state = .opened entered wall) (hr : s.turn.refreshes = true)
    (hc : c.settings.cooldown ≤ s.now.since entered)
    (hh : (c.heard s.memory s.world s.turn).1 = none) : s.Promotes := by
  have ht : c.target s.memory s.world s.turn = some .halfOpen := by
    rw [c.target_of_refreshes hr, hs]
    exact if_pos hc
  have hmoved : (c.moved s.memory s.world s.turn).state = .halfOpen := by
    unfold Circuit.moved
    rw [ht, Memory.state_move]
    rfl
  have hended : s.ended.result =
      (c.conclude s.turn (c.moved s.memory s.world s.turn) (c.heard s.memory s.world s.turn).2).result := by
    rw [Step.ended, Turn.call_of_returns c hh]
    rfl
  refine ⟨?_, ?_, fun attempt form hturn => ⟨⟨form, hturn⟩, ?_⟩, fun hturn => ?_, fun hturn => ?_⟩
  · exact (Turn.state_call c s.turn s.memory s.world).trans (by rw [ht]; rfl)
  · exact (Turn.fired_call c s.turn s.memory s.world).trans (by rw [ht]; rfl)
  · rw [hended, hturn]
    rw [hturn] at hmoved
    exact (c.conclude_of_admits (by rw [hmoved]; rfl) _ attempt form).1
  · rw [hended, hturn]
    rw [hturn] at hmoved
    exact congrArg (fun state : State => Except.ok (Answer.kind state.kind)) hmoved
  · rw [hended, hturn]
    rw [hturn] at hmoved
    exact ⟨_, rfl, congrArg State.kind hmoved⟩

/-- After a rejection, steps without a turn by hand or a refresh at or after the end of the cooldown leave
the circuit as it is. -/
theorem Step.RejectsSince.opened_of_early {s : Step c α ε} {r : Rejection ε} {entered : Instant}
    (h : s.RejectsSince r entered) (hsame : s.next = s.memory) {late : List (Turn α ε × σ)}
    (hb : ∀ t ∈ c.steps s.next late, t.turn.byHand = false)
    (hearly : ∀ t ∈ c.steps s.next late, t.turn.refreshes = true →
      t.now.nanos < s.now.nanos + r.remaining.nanos) :
    ∃ wall, (c.after s.next late).state = .opened entered wall := by
  obtain ⟨wall, hs⟩ := h.state
  have hends := h.ends
  refine ⟨wall, (Circuit.opened_of_locked late (by rw [hsame]; exact hs) ?_).1⟩
  rintro t ht (hhand | ⟨hr, hc⟩)
  · rw [hb t ht] at hhand
    cases hhand
  · have hnow := hearly t ht hr
    have hpos := h.pos
    have hle := Duration.le_def.1 h.le
    rw [Duration.le_def, Instant.nanos_since] at hc
    omega

/-- An attempt before the cooldown ends is rejected, and told the rest of the time. -/
theorem Step.RejectsSince.rest {s u : Step c α ε} {r : Rejection ε} {entered : Instant}
    {wall : Timestamp} {d : Duration} (h : s.RejectsSince r entered)
    (hu : u.memory.state = .opened entered wall) (hnow : u.now.nanos = s.now.nanos + d.nanos)
    (hstill : u.Still) (hd : d < r.remaining) {attempt : Nat} {form : Form}
    (hturn : u.turn = .admission attempt form) :
    ∃ r', u.ended.result = .ok (.refused (.rejected r')) ∧ r'.remaining = r.remaining - d := by
  have hends := h.ends
  have hbefore := h.before
  rw [Duration.lt_def] at hd
  have hc : ¬ c.settings.cooldown ≤ u.now.since entered := by
    rw [Duration.le_def, Instant.nanos_since]
    omega
  have hr := Turn.refused_of_opened c (α := α) hu hc attempt form
  rw [← hturn] at hr
  refine ⟨_, hr, ?_⟩
  rw [show (c.world.now (c.world.now u.world).2).1 = u.now from hstill, Duration.mk.injEq]
  show c.settings.cooldown.nanos - (u.now.nanos - entered.nanos) = r.remaining.nanos - d.nanos
  omega

/-- What a rejection says to be left of the cooldown is exact. A state turns half-open exactly where it is
open and nothing is left, be the reading before its entry or after. And on a clock that never goes backwards
and stands still within a call, a rejection tells the cooldown less the time since the circuit was opened
last, which is more than nothing. Unless the circuit is opened or closed by hand, every attempt until that
time has passed is rejected and told the rest of it; and the first refresh from then on turns the circuit
half-open, if listeners do not panic. -/
theorem remaining_exact (c : Circuit σ) :
    (∀ (entered now : Instant) (wall : Timestamp) (cooldown : Duration),
      (State.opened entered wall).refresh now cooldown = some .halfOpen ↔
        (State.opened entered wall).remaining now cooldown = some .zero) ∧
    ∀ (events : List (Turn α ε × σ)) (before : List (Step c α ε)) (s : Step c α ε)
      (later : List (Step c α ε)) (r : Rejection ε),
      Steady (c.steps .initial events) → c.steps .initial events = before ++ s :: later →
      s.ended.result = .ok (.refused (.rejected r)) →
      (∃ early entry period, Since .opened before early entry period ∧ s.RejectsSince r entry.now) ∧
      ∀ middle u rest d, later = middle ++ u :: rest → (∀ t ∈ middle, t.turn.byHand = false) →
        u.now.nanos = s.now.nanos + d.nanos →
        (d < r.remaining → ∀ attempt form, u.turn = .admission attempt form →
          ∃ r', u.ended.result = .ok (.refused (.rejected r')) ∧ r'.remaining = r.remaining - d) ∧
        (r.remaining ≤ d → u.turn.refreshes = true →
          (∀ t ∈ middle, t.turn.refreshes = true → t.now.nanos < s.now.nanos + r.remaining.nanos) →
          c.world.Returns → u.Promotes) := by
  refine ⟨fun entered now wall cooldown => State.refresh_eq_halfOpen_iff _ now cooldown, ?_⟩
  intro events before s later r hsteady hsplit hr
  obtain ⟨early, entry, period, hsince, hrejects⟩ := hsteady.rejectsSince hsplit hr
  refine ⟨⟨early, entry, period, hsince, hrejects⟩, ?_⟩
  intro middle u rest d hlater hb hnow
  have hsame : s.next = s.memory := (Step.of_rejected hr).1
  obtain ⟨-, late, -, -, -, hlate⟩ := c.steps_eq_append hsplit
  rw [hlater] at hlate
  obtain ⟨between, -, -, rfl, hm, -⟩ := c.steps_eq_append hlate.symm
  have hu : u ∈ later := by
    rw [hlater]
    exact List.mem_append_right _ List.mem_cons_self
  have hstill : u.Still := by
    refine hsteady.still u ?_
    rw [hsplit]
    exact List.mem_append_right _ (List.mem_cons_of_mem _ hu)
  refine ⟨fun hd attempt form hturn => ?_, fun hd hrefreshes hfirst hl => ?_⟩
  · -- the steps in between come before the attempt, and so before the end of the cooldown
    rw [hsplit, hlater, ← List.cons_append, ← List.append_assoc] at hsteady
    obtain ⟨wall, hs⟩ := hrejects.opened_of_early hsame hb fun t ht _ => by
      have hle := hsteady.le.1 t (List.mem_append_right _ (List.mem_cons_of_mem _ ht))
      rw [Duration.lt_def] at hd
      omega
    rw [← hm] at hs
    exact hrejects.rest hs hnow hstill hd hturn
  · obtain ⟨wall, hs⟩ := hrejects.opened_of_early hsame hb hfirst
    rw [← hm] at hs
    refine Step.promotes_of_passed hs hrefreshes ?_ (hl.told _ _)
    have hends := hrejects.ends
    have hbefore := hrejects.before
    rw [Duration.le_def] at hd ⊢
    rw [Instant.nanos_since]
    omega

end

namespace Bench

/-- A circuit opens at 5 ns for a millisecond. Two attempts come before that has passed, with a success that
is recorded too late between them, and then a query. -/
def waited : List (Turn Unit String × Bench) :=
  [(.admission 0 .running, reading 5), (.admission 1 .running, reading 5),
    (.recording 0 (.error "down"), reading 5), (.admission 2 .running, reading 400005),
    (.recording 1 (.ok ()), reading 500000), (.admission 3 .running, reading 900005),
    (.kind, reading 1000005)]

end Bench

/-- The first attempt is told 0.6 ms, the second one half a millisecond later 0.1 ms, and 0.6 ms after the
first one the circuit turns half-open. -/
theorem remaining_exact_waited :
    let steps := Bench.fragile.steps (.initial : Memory String) Bench.waited
    Steady steps ∧ Bench.fragile.world.Returns ∧
      (∃ r, steps[3].ended.result = .ok (.refused (.rejected r)) ∧ r.remaining = ⟨600000⟩) ∧
      (∃ r, steps[5].ended.result = .ok (.refused (.rejected r)) ∧ r.remaining = ⟨100000⟩) ∧
      steps[6].Promotes := by
  intro steps
  have hsteady : Steady steps := ⟨by decide, by decide⟩
  have hl : Bench.fragile.world.Returns := Bench.calm_fragile.returns
  let r : Rejection String := ⟨none, some "down", .millisecond - (⟨400005⟩ : Instant).since ⟨5⟩⟩
  have hr : steps[3].ended.result = .ok (.refused (.rejected r)) := rfl
  obtain ⟨-, hexact⟩ := (remaining_exact Bench.fragile).2 Bench.waited (steps.take 3) steps[3] (steps.drop 4) r
    hsteady rfl hr
  refine ⟨hsteady, hl, ⟨r, hr, by decide⟩, ?_, ?_⟩
  · obtain ⟨r', hr', hrest⟩ :=
      (hexact [steps[4]] steps[5] [steps[6]] ⟨500000⟩ rfl (by decide) (by decide)).1 (by decide) 3 .running rfl
    exact ⟨r', hr', hrest.trans (by decide)⟩
  · exact (hexact [steps[4], steps[5]] steps[6] [] ⟨600000⟩ rfl (by decide) (by decide)).2 (by decide) rfl
      (by decide) hl

end CircuitBreaker
