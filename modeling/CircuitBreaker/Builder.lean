/-
Builders put the settings and the listeners of a circuit breaker together, one by one. What has to
be given is checked for presence first, and then for its range.
-/
import CircuitBreaker.Listeners
import CircuitBreaker.Settings
import CircuitBreaker.Text.Quoted

namespace CircuitBreaker

/-- The parts of a circuit breaker that stay as they were built. -/
structure Breaker (η : Type) where
  settings : Settings
  listeners : Listeners η

/-- What has been given for a circuit breaker so far. -/
structure Builder (η : Type) where
  name : Option String
  threshold : Option UInt32
  cooldown : Option Duration
  listeners : Listeners η

/-- One part given to a builder. -/
inductive Part (η : Type)
  | name (name : String)
  | threshold (threshold : UInt32)
  | cooldown (cooldown : Duration)
  | cooldownMillis (millis : UInt64)
  | listener (kind : Kind) (listener : η)
  | everyListener (listener : η)

namespace Builder

variable {η : Type}

/-- A builder that nothing has been given to. -/
def empty : Builder η := ⟨none, none, none, .empty⟩

/-- A builder that has a name. -/
def named (name : String) : Builder η := { empty with name := some name }

/-- A builder with the parts of a configuration. -/
def ofConfig (config : Config) : Builder η :=
  { empty with
    name := config.name
    threshold := some config.threshold
    cooldown := some config.cooldown }

/-- Gives a part to the builder, in place of what it had. -/
def give (builder : Builder η) : Part η → Builder η
  | .name name => { builder with name := some name }
  | .threshold threshold => { builder with threshold := some threshold }
  | .cooldown cooldown => { builder with cooldown := some cooldown }
  | .cooldownMillis millis => { builder with cooldown := some (.ofMillis millis.toNat) }
  | .listener kind listener =>
    { builder with listeners := builder.listeners.set kind listener }
  | .everyListener listener => { builder with listeners := builder.listeners.setAll listener }

/-- The circuit breaker, if all that it needs has been given and is in range. -/
def build (builder : Builder η) : Except BuildError (Breaker η) :=
  match builder.threshold, builder.cooldown with
  | none, _ => .error .missingThreshold
  | some _, none => .error .missingCooldown
  | some threshold, some cooldown =>
    match Settings.check builder.name threshold cooldown with
    | .ok settings => .ok ⟨settings, builder.listeners⟩
    | .error e => .error e

end Builder

/-- A circuit breaker without name and listeners. -/
def Breaker.simple {η : Type} (threshold : UInt32) (cooldown : Duration) :
    Except BuildError (Breaker η) :=
  (((Builder.empty.give (.threshold threshold)).give (.cooldown cooldown))).build

/-- The circuit breaker as a description for programmers. Of the state its kind is told, unless it
cannot be seen at the moment, and of the listeners whether they are there. -/
def Breaker.outline {η : Type} (breaker : Breaker η) (seen : Option Kind) : Outline :=
  let present (kind : Kind) : Outline := .bool (breaker.listeners.get kind).isSome
  .record "CircuitBreaker" [
    ("name", .optional (fun name => .atom (Text.quoted name)) breaker.settings.name),
    ("threshold", .atom (Text.ofNat breaker.settings.threshold.toNat)),
    ("cooldown", .atom breaker.settings.cooldown.text),
    ("state", .optional (fun kind => .atom kind.label) seen),
    ("listeners", .record "Listeners" [
      ("to_closed", present .closed),
      ("to_half_open", present .halfOpen),
      ("to_open", present .opened)])]

end CircuitBreaker
