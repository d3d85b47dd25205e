/-
Configurations survive construction. A configuration can be built exactly if it is valid, all ways to build
from its values agree, and every snapshot gives the values back. Of a cooldown that is given as a length of
time, snapshots show the whole milliseconds, as far as they fit into a 64-bit number.
-/
import CircuitBreaker.Proofs.Building
import CircuitBreaker.Proofs.Snapshots

namespace CircuitBreaker

/-! ## There and back -/

/-- Milliseconds come back from the length of time that they are turned into, all of them. -/
theorem Config.millis64_cooldown (config : Config) : config.cooldown.millis64 = config.cooldownMillis := by
  have hlt : config.cooldownMillis.toNat < UInt64.size := config.cooldownMillis.toNat_lt
  rw [← UInt64.toNat_inj, Duration.toNat_millis64, cooldown, Duration.millis_ofMillis]
  omega

/-- A configuration is valid exactly if its two numbers are positive. -/
theorem Config.violations_eq_nil_iff (config : Config) :
    CircuitBreaker.violations config.threshold config.cooldown = [] ↔
      1 ≤ config.threshold ∧ 1 ≤ config.cooldownMillis := by
  have hcooldown : Duration.millisecond ≤ config.cooldown ↔ 1 ≤ config.cooldownMillis := by
    rw [Duration.le_def, Duration.millisecond, cooldown, Duration.nanos_ofMillis, Duration.nanos_ofMillis,
      UInt64.le_iff_toNat_le, UInt64.toNat_one]
    omega
  have hthreshold : 0 < config.threshold ↔ 1 ≤ config.threshold := by
    rw [UInt32.lt_iff_toNat_lt, UInt32.le_iff_toNat_le, UInt32.toNat_zero, UInt32.toNat_one]
    omega
  rw [CircuitBreaker.violations_eq_nil, hcooldown, hthreshold]

section

variable {α ε σ η : Type} {all : List (Except (List Violation) Unit) → Except (List Violation) Unit}

/-! ## Agreement -/

/-- What was built from the values of a configuration agrees with its validation: it was built exactly if the
configuration is valid, with its values, and otherwise the same violations are reported. -/
structure Agrees (built : Except BuildError (Breaker η)) (validated : Except (List Violation) Unit)
    (config : Config) : Prop where
  succeeds : (∃ breaker, built = .ok breaker) ↔ validated = .ok ()
  fails : ∀ violations, built = .error (.invalid violations) ↔ validated = .error violations
  values : ∀ breaker, built = .ok breaker →
    breaker.settings.threshold = config.threshold ∧ breaker.settings.cooldown = config.cooldown

/-- Every builder that holds the threshold and the cooldown of a configuration agrees with its validation. -/
theorem Builder.agrees {builder : Builder η} {config : Config} (ht : builder.threshold = some config.threshold)
    (hc : builder.cooldown = some config.cooldown) (hall : Accumulates all) :
    Agrees builder.build (all (rangeChecks config.threshold config.cooldown)) config := by
  have hrange := hall.range config.threshold config.cooldown
  by_cases hv : violations config.threshold config.cooldown = []
  · obtain ⟨breaker, hbuilt, -, hthreshold, hcooldown, -⟩ := build_of_inRange ht hc hv
    rw [if_pos hv] at hrange
    rw [hbuilt, hrange]
    refine ⟨⟨fun _ => rfl, fun _ => ⟨breaker, rfl⟩⟩, fun _ => ⟨nofun, nofun⟩, ?_⟩
    rintro _ ⟨⟩
    exact ⟨hthreshold, hcooldown⟩
  · have hbuilt := build_of_violations ht hc hv
    rw [if_neg hv] at hrange
    rw [hbuilt, hrange]
    refine ⟨⟨nofun, nofun⟩, fun found => ?_, nofun⟩
    constructor
    · rintro ⟨⟩
      rfl
    · rintro ⟨⟩
      rfl

/-! ## What snapshots show -/

/-- A snapshot shows the settings. -/
theorem Step.settings_of_snapshot {c : Circuit σ} {s : Step c α ε} {snap : Snapshot}
    (h : s.ended.result = .ok (.snapshot snap)) :
    snap.name = c.settings.name ∧ snap.threshold = c.settings.threshold ∧
      snap.cooldownMillis = c.settings.cooldown.millis64 := by
  obtain ⟨-, -, hsnap⟩ := s.snapshot_eq h
  have hcoherent := c.coherent_sight s.next (c.heard s.memory s.world s.turn).2
  rw [← hsnap] at hcoherent
  exact ⟨hcoherent.name, hcoherent.threshold, hcoherent.cooldown⟩

/-- What has been built has the name and the cooldown that the builder holds. -/
theorem Builder.settings_of_build {builder : Builder η} {breaker : Breaker η} (h : builder.build = .ok breaker) :
    breaker.settings.name = builder.name ∧ builder.threshold = some breaker.settings.threshold ∧
      builder.cooldown = some breaker.settings.cooldown := by
  cases ht : builder.threshold with
  | none =>
    rw [build_of_threshold_eq_none ht] at h
    cases h
  | some threshold =>
    cases hc : builder.cooldown with
    | none =>
      rw [build_of_cooldown_eq_none ht hc] at h
      cases h
    | some cooldown =>
      by_cases hv : violations threshold cooldown = []
      · obtain ⟨built, hbuilt, hname, hthreshold, hcooldown, -⟩ := build_of_inRange ht hc hv
        obtain rfl : built = breaker := Except.ok.inj (hbuilt.symm.trans h)
        exact ⟨hname, congrArg some hthreshold.symm, congrArg some hcooldown.symm⟩
      · rw [build_of_violations ht hc hv] at h
        cases h

/-- Configurations survive construction, and all ways to construct agree. Validation makes the range checks
together and finds the violations of the configuration. A circuit breaker can be built from a configuration
exactly if the validation succeeds, which it does exactly if threshold and cooldown are at least 1. If it fails,
the violations that the validation finds are reported, also where the circuit breaker is made directly from the
values, or by any other builder that holds them. In every run of a circuit breaker that was built from a
configuration each snapshot shows its name, its threshold and its milliseconds. And of any cooldown that a builder
has accepted each snapshot shows the whole milliseconds, or the largest 64-bit number if there are more. -/
theorem configuration_survives (hall : Accumulates all) (config : Config) :
    let validated := all (rangeChecks config.threshold config.cooldown)
    validated = (if config.violations = [] then .ok () else .error config.violations) ∧
    (validated = .ok () ↔ 1 ≤ config.threshold ∧ 1 ≤ config.cooldownMillis) ∧
    Agrees (Builder.ofConfig config : Builder η).build validated config ∧
    Agrees (Breaker.simple config.threshold config.cooldown : Except BuildError (Breaker η)) validated config ∧
    (∀ builder : Builder η, builder.threshold = some config.threshold → builder.cooldown = some config.cooldown →
      Agrees builder.build validated config) ∧
    (∀ breaker : Breaker η, (Builder.ofConfig config).build = .ok breaker →
      ∀ (w : World σ) (events : List (Turn α ε × σ)),
      ∀ s ∈ (⟨breaker.settings, w⟩ : Circuit σ).steps .initial events,
      ∀ snap, s.ended.result = .ok (.snapshot snap) →
        snap.name = config.name ∧ snap.threshold = config.threshold ∧
          snap.cooldownMillis = config.cooldownMillis) ∧
    ∀ (builder : Builder η) (cooldown : Duration) (breaker : Breaker η), builder.cooldown = some cooldown →
      builder.build = .ok breaker → ∀ (w : World σ) (events : List (Turn α ε × σ)),
      ∀ s ∈ (⟨breaker.settings, w⟩ : Circuit σ).steps .initial events,
      ∀ snap, s.ended.result = .ok (.snapshot snap) →
        snap.cooldownMillis.toNat = min (cooldown.nanos / 1000000) (UInt64.size - 1) := by
  intro validated
  have hrange : validated = _ := hall.range config.threshold config.cooldown
  refine ⟨hrange, ?_, Builder.agrees rfl rfl hall, Builder.agrees rfl rfl hall, fun builder ht hc => ?_, ?_, ?_⟩
  · rw [← config.violations_eq_nil_iff, hrange]
    constructor
    · intro h
      by_contra hv
      rw [if_neg hv] at h
      cases h
    · exact fun hv => if_pos hv
  · exact Builder.agrees ht hc hall
  · intro breaker hbuilt w events s _ snap h
    obtain ⟨hname, hthreshold, hcooldown⟩ := Builder.settings_of_build hbuilt
    obtain ⟨hsnapName, hsnapThreshold, hsnapCooldown⟩ := Step.settings_of_snapshot h
    refine ⟨hsnapName.trans hname, hsnapThreshold.trans ?_, hsnapCooldown.trans ?_⟩
    · exact (Option.some.inj hthreshold).symm
    · rw [← Option.some.inj hcooldown]
      exact config.millis64_cooldown
  · intro builder cooldown breaker hc hbuilt w events s _ snap h
    obtain ⟨-, -, hcooldown⟩ := Builder.settings_of_build hbuilt
    obtain rfl : cooldown = breaker.settings.cooldown := Option.some.inj (hc.symm.trans hcooldown)
    rw [(Step.settings_of_snapshot h).2.2]
    exact breaker.settings.cooldown.toNat_millis64

end

/-- A circuit breaker that has just been built is asked for a snapshot. -/
def Bench.asked (breaker : Breaker BenchListener) : Step (circuit breaker) Unit String :=
  ⟨.snapshot, .initial, reading 0⟩

theorem Bench.result_asked (breaker : Breaker BenchListener) :
    (asked breaker).ended.result =
      .ok (.snapshot ((circuit breaker).sight (.initial : Memory String) (reading 0))) := rfl

theorem Bench.asked_mem (breaker : Breaker BenchListener) :
    asked breaker ∈ (circuit breaker).steps .initial [(.snapshot, reading 0)] := List.mem_singleton_self _

/-- The longest cooldown of a configuration survives, a longer one is cut off in snapshots, and where both numbers
are out of range both are reported. -/
theorem configuration_survives_longest :
    let longest : Config := ⟨some "ledger", 1, 18446744073709551615⟩
    let beyond : Builder BenchListener := (Builder.ofConfig longest).give (.cooldown (.ofParts 18446744073709551615 0))
    Accumulates (accumulate : List (Except (List Violation) Unit) → _) ∧
    (∃ breaker : Breaker BenchListener, (Builder.ofConfig longest).build = .ok breaker ∧
      ∃ snap, (Bench.asked breaker).ended.result = .ok (.snapshot snap) ∧
        snap.name = some "ledger" ∧ snap.cooldownMillis = 18446744073709551615) ∧
    (∃ breaker, beyond.build = .ok breaker ∧
      ∃ snap, (Bench.asked breaker).ended.result = .ok (.snapshot snap) ∧
        snap.cooldownMillis.toNat = 18446744073709551615) ∧
    (Builder.ofConfig ⟨none, 0, 0⟩ : Builder BenchListener).build =
      .error (.invalid [.thresholdTooLow 0, .cooldownTooShort .zero]) := by
  intro longest beyond
  obtain ⟨-, hvalid, hconfig, -, -, hsnap, hcut⟩ :=
    configuration_survives (α := Unit) (ε := String) (σ := Bench) (η := BenchListener) accumulates_accumulate longest
  refine ⟨accumulates_accumulate, ?_, ?_, ?_⟩
  · obtain ⟨breaker, hbuilt⟩ := hconfig.succeeds.2 (hvalid.2 (by decide))
    obtain ⟨hname, -, hmillis⟩ :=
      hsnap breaker hbuilt _ _ _ (Bench.asked_mem breaker) _ (Bench.result_asked breaker)
    exact ⟨breaker, hbuilt, _, Bench.result_asked breaker, hname, hmillis⟩
  · obtain ⟨breaker, hbuilt, -⟩ := Builder.build_of_inRange (show beyond.threshold = some 1 from rfl) rfl (by decide)
    have hmillis := hcut beyond _ breaker rfl hbuilt _ _ _ (Bench.asked_mem breaker) _ (Bench.result_asked breaker)
    exact ⟨breaker, hbuilt, _, Bench.result_asked breaker, hmillis⟩
  · have hnone := configuration_survives (α := Unit) (ε := String) (σ := Bench) (η := BenchListener)
      accumulates_accumulate ⟨none, 0, 0⟩
    exact (hnone.2.2.1.fails _).2 rfl

end CircuitBreaker
