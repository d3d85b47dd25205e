/-
How a builder resolves the parts that it is given. Every slot holds what the last part for it has given, or
what the builder began with. What is missing is reported first, then all that is out of range; and the
circuit breaker that is built runs the listener in the slot of each state that it enters, and no other.
-/
import CircuitBreaker.Proofs.Transitions

namespace CircuitBreaker

section

variable {β η : Type}

/-! ## Slots -/

/-- How a builder begins: as a new one, which is also the default, with a name, or with a configuration. -/
inductive Beginning
  | fresh
  | named (name : String)
  | ofConfig (config : Config)

namespace Beginning

/-- The builder as it begins. -/
def builder : Beginning → Builder η
  | .fresh => .empty
  | .named name => .named name
  | .ofConfig config => .ofConfig config

/-- The name that the builder begins with. -/
def name? : Beginning → Option String
  | .fresh => none
  | .named name => some name
  | .ofConfig config => config.name

/-- The threshold that the builder begins with. -/
def threshold? : Beginning → Option UInt32
  | .fresh | .named _ => none
  | .ofConfig config => some config.threshold

/-- The cooldown that the builder begins with. -/
def cooldown? : Beginning → Option Duration
  | .fresh | .named _ => none
  | .ofConfig config => some config.cooldown

end Beginning

namespace Part

/-- The name that a part gives. -/
def name? : Part η → Option String
  | .name given => some given
  | _ => none

/-- The threshold that a part gives. -/
def threshold? : Part η → Option UInt32
  | .threshold given => some given
  | _ => none

/-- The cooldown that a part gives, in either way. -/
def cooldown? : Part η → Option Duration
  | .cooldown given => some given
  | .cooldownMillis millis => some (.ofMillis millis.toNat)
  | _ => none

/-- The listener that a part gives to a kind of state, to it alone or to all of them. -/
def listener? (kind : Kind) : Part η → Option η
  | .listener other given => if kind = other then some given else none
  | .everyListener given => some given
  | _ => none

end Part

/-- What the last of the parts that give something has given, or what was there without them. -/
def effective (gives : Part η → Option β) (parts : List (Part η)) (otherwise : Option β) : Option β :=
  (parts.filterMap gives).getLast?.or otherwise

/-- Gives parts to a builder, one after the other. -/
def Builder.giveAll (builder : Builder η) (parts : List (Part η)) : Builder η :=
  parts.foldl Builder.give builder

theorem effective_concat (gives : Part η → Option β) (parts : List (Part η)) (part : Part η)
    (otherwise : Option β) :
    effective gives (parts ++ [part]) otherwise = (gives part).or (effective gives parts otherwise) := by
  unfold effective
  rw [List.filterMap_append]
  cases h : gives part with
  | none => simp [h]
  | some b => simp [h]

/-- The last part wins in every slot that takes what a part gives to it, and is left alone by the others. -/
theorem slot_giveAll (slot : Builder η → Option β) (gives : Part η → Option β)
    (h : ∀ builder part, slot (builder.give part) = (gives part).or (slot builder)) (builder : Builder η)
    (parts : List (Part η)) : slot (builder.giveAll parts) = effective gives parts (slot builder) := by
  unfold Builder.giveAll
  induction parts using List.reverseRecOn with
  | nil => rfl
  | append_singleton parts part ih =>
    rw [List.foldl_append, effective_concat, ← ih]
    exact h _ part

/-- Every slot of the builder holds what the last part for it has given. -/
structure Builder.Holds (builder : Builder η) (start : Beginning) (parts : List (Part η)) : Prop where
  name : builder.name = effective Part.name? parts start.name?
  threshold : builder.threshold = effective Part.threshold? parts start.threshold?
  cooldown : builder.cooldown = effective Part.cooldown? parts start.cooldown?
  listener : ∀ kind, builder.listeners.get kind = effective (Part.listener? kind) parts none

theorem get_give (builder : Builder η) (part : Part η) (kind : Kind) :
    (builder.give part).listeners.get kind = (part.listener? kind).or (builder.listeners.get kind) := by
  cases part with
  | listener other listener =>
    show (builder.listeners.set other listener).get kind = _
    rw [Listeners.get_set]
    by_cases hk : kind = other
    · simp [Part.listener?, hk]
    · simp [Part.listener?, hk]
  | everyListener listener => exact builder.listeners.get_setAll kind listener
  | name | threshold | cooldown | cooldownMillis => rfl

theorem holds_giveAll (start : Beginning) (parts : List (Part η)) :
    (start.builder.giveAll parts).Holds start parts where
  name := by
    rw [slot_giveAll Builder.name Part.name? (fun _ part => by cases part <;> rfl)]
    cases start <;> rfl
  threshold := by
    rw [slot_giveAll Builder.threshold Part.threshold? (fun _ part => by cases part <;> rfl)]
    cases start <;> rfl
  cooldown := by
    rw [slot_giveAll Builder.cooldown Part.cooldown? (fun _ part => by cases part <;> rfl)]
    cases start <;> rfl
  listener kind := by
    rw [slot_giveAll (fun builder => builder.listeners.get kind) (Part.listener? kind)
      fun builder part => get_give builder part kind]
    cases start <;> exact congrArg _ (Listeners.get_empty kind)

/-! ## Range checks -/

/-- What a check complains about. -/
def complaints : Except (List β) Unit → List β
  | .ok () => []
  | .error found => found

/-- A way to make checks together: if all of them pass so does the whole, and if not it complains about all
that they complain about, in their order. -/
structure Accumulates (all : List (Except (List β) Unit) → Except (List β) Unit) : Prop where
  passes : ∀ checks, (∀ check ∈ checks, check = .ok ()) → all checks = .ok ()
  fails : ∀ checks, (∃ check ∈ checks, check ≠ .ok ()) → all checks = .error (checks.flatMap complaints)

/-- Makes checks one after the other, and puts together what they complain about. -/
def accumulate : List (Except (List β) Unit) → Except (List β) Unit
  | [] => .ok ()
  | .ok () :: checks => accumulate checks
  | .error found :: checks => .error (found ++ complaints (accumulate checks))

theorem accumulates_accumulate : Accumulates (accumulate : List (Except (List β) Unit) → _) := by
  have hcomplaints : ∀ checks : List (Except (List β) Unit),
      complaints (accumulate checks) = checks.flatMap complaints := by
    intro checks
    induction checks with
    | nil => rfl
    | cons check checks ih =>
      rw [List.flatMap_cons, ← ih]
      cases check <;> rfl
  constructor
  · intro checks h
    induction checks with
    | nil => rfl
    | cons check checks ih =>
      obtain ⟨rfl, hchecks⟩ := List.forall_mem_cons.1 h
      exact ih hchecks
  · intro checks h
    induction checks with
    | nil => simp at h
    | cons check checks ih =>
      cases check with
      | error found =>
        rw [accumulate, hcomplaints]
        rfl
      | ok => exact ih (by simpa using h)

/-- The check of a threshold, and that of a cooldown. -/
def rangeChecks (threshold : UInt32) (cooldown : Duration) : List (Except (List Violation) Unit) :=
  [if threshold < 1 then .error [.thresholdTooLow threshold] else .ok (),
    if cooldown < .millisecond then .error [.cooldownTooShort cooldown] else .ok ()]

theorem complaints_rangeChecks (threshold : UInt32) (cooldown : Duration) :
    (rangeChecks threshold cooldown).flatMap complaints =
      (if threshold < 1 then [.thresholdTooLow threshold] else []) ++
        if cooldown < .millisecond then [.cooldownTooShort cooldown] else [] := by
  unfold rangeChecks
  split <;> split <;> rfl

theorem violations_eq (threshold : UInt32) (cooldown : Duration) :
    violations threshold cooldown = (rangeChecks threshold cooldown).flatMap complaints := by
  have hcooldown : Duration.millisecond ≤ cooldown ↔ ¬ cooldown < Duration.millisecond := Nat.not_lt.symm
  have hthreshold : 0 < threshold ↔ ¬ threshold < 1 := by
    rw [UInt32.lt_iff_toNat_lt, UInt32.lt_iff_toNat_lt, UInt32.toNat_zero, UInt32.toNat_one]
    omega
  rw [complaints_rangeChecks, violations]
  simp only [hcooldown, hthreshold, ite_not]

theorem ok_of_complaints_eq_nil {threshold : UInt32} {cooldown : Duration}
    {check : Except (List Violation) Unit} (hc : check ∈ rangeChecks threshold cooldown)
    (h : complaints check = []) : check = .ok () := by
  cases check with
  | ok => rfl
  | error found =>
    -- no check fails without a complaint
    obtain rfl : found = [] := h
    unfold rangeChecks at hc
    split at hc <;> split at hc <;> simp at hc

/-- Made together, the checks find the violations. -/
theorem Accumulates.range {all : List (Except (List Violation) Unit) → Except (List Violation) Unit}
    (h : Accumulates all) (threshold : UInt32) (cooldown : Duration) :
    all (rangeChecks threshold cooldown) =
      if violations threshold cooldown = [] then .ok () else .error (violations threshold cooldown) := by
  rw [violations_eq]
  by_cases hok : ∀ check ∈ rangeChecks threshold cooldown, check = .ok ()
  · rw [h.passes _ hok, if_pos]
    exact List.flatMap_eq_nil_iff.2 fun check hc => by rw [hok check hc]; rfl
  · obtain ⟨check, hc, hne⟩ : ∃ check ∈ rangeChecks threshold cooldown, check ≠ .ok () := by
      by_contra hnone
      exact hok fun check hc => by_contra fun hne => hnone ⟨check, hc, hne⟩
    rw [h.fails _ ⟨check, hc, hne⟩, if_neg]
    intro hnil
    exact hne (ok_of_complaints_eq_nil hc (List.flatMap_eq_nil_iff.1 hnil check hc))

/-! ## Building -/

namespace Builder

variable {builder : Builder η} {threshold : UInt32} {cooldown : Duration}

theorem build_of_threshold_eq_none (h : builder.threshold = none) : builder.build = .error .missingThreshold := by
  unfold build
  rw [h]

theorem build_of_cooldown_eq_none (ht : builder.threshold = some threshold) (hc : builder.cooldown = none) :
    builder.build = .error .missingCooldown := by
  unfold build
  rw [ht, hc]

theorem build_of_given (ht : builder.threshold = some threshold) (hc : builder.cooldown = some cooldown) :
    builder.build =
      (Settings.check builder.name threshold cooldown).map fun settings => ⟨settings, builder.listeners⟩ := by
  unfold build
  rw [ht, hc]
  dsimp only
  cases Settings.check builder.name threshold cooldown <;> rfl

/-- Everything that is out of range is reported. -/
theorem build_of_violations (ht : builder.threshold = some threshold) (hc : builder.cooldown = some cooldown)
    (h : violations threshold cooldown ≠ []) :
    builder.build = .error (.invalid (violations threshold cooldown)) := by
  have hcheck : Settings.check builder.name threshold cooldown = .error (.invalid (violations threshold cooldown)) :=
    dif_neg fun hrange => h (violations_eq_nil.2 hrange)
  rw [build_of_given ht hc, hcheck]
  exact Except.map_error _ _

/-- In range, the circuit breaker gets what the builder holds. -/
theorem build_of_inRange (ht : builder.threshold = some threshold) (hc : builder.cooldown = some cooldown)
    (h : violations threshold cooldown = []) :
    ∃ breaker, builder.build = .ok breaker ∧ breaker.settings.name = builder.name ∧
      breaker.settings.threshold = threshold ∧ breaker.settings.cooldown = cooldown ∧
      breaker.listeners = builder.listeners := by
  obtain ⟨hthreshold, hcooldown⟩ := violations_eq_nil.1 h
  have hcheck : Settings.check builder.name threshold cooldown =
      .ok ⟨builder.name, threshold, cooldown, hthreshold, hcooldown⟩ := dif_pos ⟨hthreshold, hcooldown⟩
  rw [build_of_given ht hc, hcheck]
  exact ⟨_, Except.map_ok _ _, rfl, rfl, rfl, rfl⟩

end Builder

/-! ## The circuit breaker that is built -/

/-- Building resolves slot by slot, and the last part wins. However a builder begins and whatever it is
given, a missing threshold is reported first and then a missing cooldown. If both are there, the range checks
made together decide: either they complain, in their order, and that is reported, or there is a circuit breaker
with the effective name, threshold and cooldown. It is closed at first and has run no listener; later each
entry into a state runs the listener of the last part that has given one for that state, alone or with the
others, and none if no part has. -/
theorem building_resolves {all : List (Except (List Violation) Unit) → Except (List Violation) Unit}
    (hall : Accumulates all) (start : Beginning) (parts : List (Part η)) :
    let built := (start.builder.giveAll parts).build
    let threshold? := effective Part.threshold? parts start.threshold?
    let cooldown? := effective Part.cooldown? parts start.cooldown?
    (threshold? = none → built = .error .missingThreshold) ∧
    (threshold?.isSome = true → cooldown? = none → built = .error .missingCooldown) ∧
    ∀ threshold cooldown, threshold? = some threshold → cooldown? = some cooldown →
      let violated := (if threshold < 1 then [.thresholdTooLow threshold] else []) ++
        if cooldown < .millisecond then [.cooldownTooShort cooldown] else []
      (violated ≠ [] →
        all (rangeChecks threshold cooldown) = .error violated ∧ built = .error (.invalid violated)) ∧
      (violated = [] → all (rangeChecks threshold cooldown) = .ok () ∧
        ∃ breaker, built = .ok breaker ∧ breaker.settings.name = effective Part.name? parts start.name? ∧
          breaker.settings.threshold = threshold ∧ breaker.settings.cooldown = cooldown ∧
          breaker.Runs fun kind => effective (Part.listener? kind) parts none) := by
  intro built threshold? cooldown?
  have hholds := holds_giveAll start parts
  refine ⟨fun ht => ?_, fun ht hc => ?_, fun threshold cooldown ht hc => ?_⟩
  · exact Builder.build_of_threshold_eq_none (hholds.threshold.trans ht)
  · obtain ⟨threshold, ht⟩ := Option.isSome_iff_exists.1 ht
    exact Builder.build_of_cooldown_eq_none (hholds.threshold.trans ht) (hholds.cooldown.trans hc)
  · intro violated
    have hviolated : violations threshold cooldown = violated := by
      rw [violations_eq, complaints_rangeChecks]
    have hrange := hall.range threshold cooldown
    rw [hviolated] at hrange
    constructor
    · intro hne
      rw [if_neg hne] at hrange
      refine ⟨hrange, ?_⟩
      rw [← hviolated] at hne ⊢
      exact Builder.build_of_violations (hholds.threshold.trans ht) (hholds.cooldown.trans hc) hne
    · intro hnil
      rw [if_pos hnil] at hrange
      obtain ⟨breaker, hbuilt, hname, hthreshold, hcooldown, hlisteners⟩ :=
        Builder.build_of_inRange (hholds.threshold.trans ht) (hholds.cooldown.trans hc) (hviolated.trans hnil)
      refine ⟨hrange, breaker, hbuilt, hname.trans hholds.name, hthreshold, hcooldown, ?_⟩
      have hget : breaker.listeners.get = fun kind => effective (Part.listener? kind) parts none := by
        funext kind
        rw [hlisteners, hholds.listener]
      rw [← hget]
      exact breaker.runs

end

/-- A listener for a single state runs in place of an earlier one for all states, and what is out of range is
reported together. -/
theorem building_resolves_override :
    let override : List (Part Nat) := [.everyListener 0, .threshold 1, .listener .opened 1, .cooldownMillis 10]
    let short : List (Part Nat) := [.threshold 0, .cooldownMillis 10, .cooldown ⟨500000⟩]
    Accumulates (accumulate : List (Except (List Violation) Unit) → _) ∧
    (∃ breaker : Breaker Nat, (Beginning.fresh.builder.giveAll override).build = .ok breaker ∧
      breaker.settings.cooldown = .ofMillis 10 ∧ breaker.Runs fun kind => some (if kind = .opened then 1 else 0)) ∧
    ((Beginning.named "geocoder").builder.giveAll short).build =
      .error (.invalid [.thresholdTooLow 0, .cooldownTooShort ⟨500000⟩]) := by
  intro override short
  refine ⟨accumulates_accumulate, ?_, ?_⟩
  · have hgiven := (building_resolves accumulates_accumulate .fresh override).2.2 1 (.ofMillis 10) rfl rfl
    obtain ⟨-, breaker, hbuilt, -, -, hcooldown, hruns⟩ := hgiven.2 rfl
    have hlast : (fun kind => effective (Part.listener? kind) override none) =
        fun kind => some (if kind = .opened then 1 else 0) := by
      funext kind
      cases kind <;> rfl
    rw [hlast] at hruns
    exact ⟨breaker, hbuilt, hcooldown, hruns⟩
  · have hgiven := (building_resolves accumulates_accumulate (.named "geocoder") short).2.2 0 ⟨500000⟩ rfl rfl
    exact (hgiven.1 (by decide)).2

end CircuitBreaker
