/-
Snapshots as JSON: an object with nine fields, or an array of them in order. Fields that may be
absent may be left out of an object, and other fields are passed over.
-/
import CircuitBreaker.Kind.Codec
import CircuitBreaker.Snapshot

namespace CircuitBreaker.Snapshot

/-- A snapshot as JSON. -/
def encode (snapshot : Snapshot) : Json :=
  .object [
    ("name", .optional .string snapshot.name),
    ("state", snapshot.kind.encode),
    ("failure_count", .nat snapshot.failures.toNat),
    ("threshold", .nat snapshot.threshold.toNat),
    ("cooldown_ms", .nat snapshot.cooldownMillis.toNat),
    ("opened_at", .optional (fun t => .string t.text) snapshot.openedAt),
    ("cooldown_remaining_ms", .optional (fun n => .nat n.toNat) snapshot.remainingMillis),
    ("has_last_failure", .bool snapshot.hasLastFailure),
    ("captured_at", .string snapshot.capturedAt.text)]

/-- The fields that have been taken from an object so far. -/
structure Partial where
  name : Option (Option String)
  kind : Option Kind
  failures : Option UInt32
  threshold : Option UInt32
  cooldownMillis : Option UInt64
  openedAt : Option (Option Timestamp)
  remainingMillis : Option (Option UInt64)
  hasLastFailure : Option Bool
  capturedAt : Option Timestamp

/-- No field has been taken yet. -/
def Partial.empty : Partial := ⟨none, none, none, none, none, none, none, none, none⟩

/-- Takes up one entry of an object. -/
def Partial.take (origin : Origin) (fields : Partial) (key : String) (value : Draft) :
    Except Mismatch Partial :=
  if key = "name" then do
    let decode := Draft.decodeOptional Draft.decodeString
    return { fields with name := ← Draft.decodeOnce key fields.name decode value }
  else if key = "state" then do
    return { fields with kind := ← Draft.decodeOnce key fields.kind (Kind.decode origin) value }
  else if key = "failure_count" then do
    let decode := Draft.decodeUInt32
    return { fields with failures := ← Draft.decodeOnce key fields.failures decode value }
  else if key = "threshold" then do
    let decode := Draft.decodeUInt32
    return { fields with threshold := ← Draft.decodeOnce key fields.threshold decode value }
  else if key = "cooldown_ms" then do
    let decode := Draft.decodeUInt64
    return { fields with cooldownMillis := ← Draft.decodeOnce key fields.cooldownMillis decode value }
  else if key = "opened_at" then do
    let decode := Draft.decodeOptional Draft.decodeTimestamp
    return { fields with openedAt := ← Draft.decodeOnce key fields.openedAt decode value }
  else if key = "cooldown_remaining_ms" then do
    let decode := Draft.decodeOptional Draft.decodeUInt64
    return { fields with
      remainingMillis := ← Draft.decodeOnce key fields.remainingMillis decode value }
  else if key = "has_last_failure" then do
    let decode := Draft.decodeBool
    return { fields with hasLastFailure := ← Draft.decodeOnce key fields.hasLastFailure decode value }
  else if key = "captured_at" then do
    let decode := Draft.decodeTimestamp
    return { fields with capturedAt := ← Draft.decodeOnce key fields.capturedAt decode value }
  else do
    value.skip
    return fields

/-- The snapshot, if no field is missing. -/
def Partial.finish (fields : Partial) : Except Mismatch Snapshot := do
  return {
    name := fields.name.getD none
    kind := ← Draft.required "state" fields.kind
    failures := ← Draft.required "failure_count" fields.failures
    threshold := ← Draft.required "threshold" fields.threshold
    cooldownMillis := ← Draft.required "cooldown_ms" fields.cooldownMillis
    openedAt := fields.openedAt.getD none
    remainingMillis := fields.remainingMillis.getD none
    hasLastFailure := ← Draft.required "has_last_failure" fields.hasLastFailure
    capturedAt := ← Draft.required "captured_at" fields.capturedAt }

/-- What a snapshot is called where something else stands in its place. -/
def expected : String := "struct BreakerSnapshot"

/-- The snapshot whose fields are the items of an array. -/
def ofItems (origin : Origin) (items : List Draft) : Except Mismatch Snapshot := do
  let item {α : Type} (i : Nat) (decode : Decoder α) := Draft.decodeItem expected 9 items i decode
  return {
    name := ← item 0 (Draft.decodeOptional Draft.decodeString)
    kind := ← item 1 (Kind.decode origin)
    failures := ← item 2 Draft.decodeUInt32
    threshold := ← item 3 Draft.decodeUInt32
    cooldownMillis := ← item 4 Draft.decodeUInt64
    openedAt := ← item 5 (Draft.decodeOptional Draft.decodeTimestamp)
    remainingMillis := ← item 6 (Draft.decodeOptional Draft.decodeUInt64)
    hasLastFailure := ← item 7 Draft.decodeBool
    capturedAt := ← item 8 Draft.decodeTimestamp }

/-- A snapshot from JSON. -/
def decode (origin : Origin) : Decoder Snapshot
  | .object entries => do
    (← Draft.foldEntries (Partial.take origin) .empty entries).finish
  | .array items => do
    let snapshot ← ofItems origin items
    Draft.noneLeft origin 9 items
    return snapshot
  | d => .error (d.refuse expected)

end CircuitBreaker.Snapshot
