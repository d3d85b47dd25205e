/-
Configurations as JSON: an object with the fields `name`, `threshold` and `cooldown_ms`, or an array
of the three in this order. The name may be left out of an object, and other fields are passed over.
-/
import CircuitBreaker.Config
import CircuitBreaker.Json.Decoder

namespace CircuitBreaker.Config

/-- A configuration as JSON. -/
def encode (config : Config) : Json :=
  .object [
    ("name", .optional .string config.name),
    ("threshold", .nat config.threshold.toNat),
    ("cooldown_ms", .nat config.cooldownMillis.toNat)]

/-- The fields that have been taken from an object so far. -/
structure Partial where
  name : Option (Option String)
  threshold : Option UInt32
  cooldownMillis : Option UInt64

/-- No field has been taken yet. -/
def Partial.empty : Partial := ⟨none, none, none⟩

/-- Takes up one entry of an object. -/
def Partial.take (fields : Partial) (key : String) (value : Draft) : Except Mismatch Partial :=
  if key = "name" then do
    let decode := Draft.decodeOptional Draft.decodeString
    return { fields with name := ← Draft.decodeOnce "name" fields.name decode value }
  else if key = "threshold" then do
    let decode := Draft.decodeUInt32
    return { fields with threshold := ← Draft.decodeOnce "threshold" fields.threshold decode value }
  else if key = "cooldown_ms" then do
    let decode := Draft.decodeUInt64
    return { fields with
      cooldownMillis := ← Draft.decodeOnce "cooldown_ms" fields.cooldownMillis decode value }
  else do
    value.skip
    return fields

/-- The configuration, if no field is missing. -/
def Partial.finish (fields : Partial) : Except Mismatch Config := do
  return {
    name := fields.name.getD none
    threshold := ← Draft.required "threshold" fields.threshold
    cooldownMillis := ← Draft.required "cooldown_ms" fields.cooldownMillis }

/-- What a configuration is called where something else stands in its place. -/
def expected : String := "struct CircuitBreakerConfig"

/-- The configuration whose fields are the items of an array. An empty array lacks the threshold, as
the name need not be given. -/
def ofItems (items : List Draft) : Except Mismatch Config := do
  let name ← match items[0]? with
    | none => pure none
    | some d => Draft.decodeOptional Draft.decodeString d
  let threshold ← Draft.decodeItem expected 3 items 1 Draft.decodeUInt32
  let cooldownMillis ← Draft.decodeItem expected 3 items 2 Draft.decodeUInt64
  return ⟨name, threshold, cooldownMillis⟩

/-- A configuration from JSON. -/
def decode (origin : Origin) : Decoder Config
  | .object entries => do
    (← Draft.foldEntries Partial.take .empty entries).finish
  | .array items => do
    let config ← ofItems items
    Draft.noneLeft origin 3 items
    return config
  | d => .error (d.refuse expected)

end CircuitBreaker.Config
