/-
Decoding JSON. Decoders work on drafts, in the order of the text, so that of several mismatches the
first is reported, and a text that goes wrong is malformed only if nothing before that is amiss.
-/
import CircuitBreaker.Json.Mismatch
import CircuitBreaker.Json.Reader

namespace CircuitBreaker

/-- Where the JSON comes from: a text that is read once from front to back, or a value that is
held as a whole, in which the number of items and entries is known beforehand. -/
inductive Origin
  | text
  | value
deriving DecidableEq, Repr

/-- A decoder of values of type `α`. -/
abbrev Decoder (α : Type) := Draft → Except Mismatch α

namespace Draft

/-- Refuses the draft where something else is expected. -/
def refuse (expected : String) : Draft → Mismatch
  | .null => .wrongType .null expected
  | .bool b => .wrongType (.bool b) expected
  | .number n => .wrongType (.number n) expected
  | .string s => .wrongType (.string s) expected
  | .array _ => .wrongType .array expected
  | .object _ => .wrongType .object expected
  | .unreadable => .malformed
  | .malformed => .malformed

/-! ## Scalars -/

/-- An integer from 0 up to `limit`, which is excluded. -/
def decodeBelow (limit : Nat) (expected : String) : Decoder Nat
  | .number (.integer n) =>
    if 0 ≤ n ∧ n < limit then .ok n.toNat else .error (.outOfRange n expected)
  | d => .error (d.refuse expected)

/-- An integer of 32 bits without a sign. -/
def decodeUInt32 : Decoder UInt32 := fun d => do
  return UInt32.ofNat (← decodeBelow UInt32.size "u32" d)

/-- An integer of 64 bits without a sign. -/
def decodeUInt64 : Decoder UInt64 := fun d => do
  return UInt64.ofNat (← decodeBelow UInt64.size "u64" d)

/-- A truth value. -/
def decodeBool : Decoder Bool
  | .bool b => .ok b
  | d => .error (d.refuse "a boolean")

/-- A string. -/
def decodeString : Decoder String
  | .string s => .ok s
  | d => .error (d.refuse "a string")

/-- A point of time as a string. -/
def decodeTimestamp : Decoder Timestamp
  | .string s =>
    match Timestamp.parse s with
    | .ok t => .ok t
    | .error e => .error (.badTime e)
  | d => .error (d.refuse "an RFC 3339 formatted date and time string")

/-- `null`, or what the decoder takes. -/
def decodeOptional {α : Type} (decode : Decoder α) : Decoder (Option α)
  | .null => .ok none
  | d => (decode d).map some

/-- Nothing but `null`. -/
def decodeNull : Decoder Unit
  | .null => .ok ()
  | d => .error (d.refuse "unit")

/-- Passes over a value that is not wanted; it has to be well formed all the same. -/
def skip (d : Draft) : Except Mismatch Unit :=
  if d.wellFormed then .ok () else .error .malformed

/-! ## Variants -/

/-- One of several names, alone or as the only key of an object that gives it `null`. -/
def decodeVariant {α : Type} (known : List (String × α)) (origin : Origin) : Decoder α
  | .string s => named s
  | .object entries =>
    match origin with
    | .value =>
      match entries with
      | [(some key, value)] => do
        let a ← named key
        decodeNull value
        return a
      | _ => .error .notSingleKey
    | .text =>
      match entries with
      | [] => .error .malformed
      | (none, _) :: _ => .error .malformed
      | (some key, value) :: rest => do
        let a ← named key
        decodeNull value
        if rest.isEmpty then return a else .error .malformed
  | d =>
    match origin with
    | .value => .error (d.refuse "string or map")
    | .text => .error .malformed
where
  /-- The variant with this name. -/
  named (s : String) : Except Mismatch α :=
    match known.find? (·.1 = s) with
    | some (_, a) => .ok a
    | none => .error (.unknownVariant s (known.map (·.1)))

/-! ## Records -/

/-- Decodes a field that may occur once. -/
def decodeOnce {α : Type} (field : String) (slot : Option α) (decode : Decoder α) :
    Decoder (Option α) := fun d =>
  match slot with
  | some _ => .error (.duplicateField field)
  | none => (decode d).map some

/-- A field that has to have occurred. -/
def required {α : Type} (field : String) : Option α → Except Mismatch α
  | some a => .ok a
  | none => .error (.missingField field)

/-- Takes up the entries of an object one by one. -/
def foldEntries {β : Type} (take : β → String → Decoder β) :
    β → List (Option String × Draft) → Except Mismatch β
  | acc, [] => .ok acc
  | _, (none, _) :: _ => .error .malformed
  | acc, (some key, value) :: entries => do foldEntries take (← take acc key value) entries

/-- What is expected where an array is too short for a record of `count` fields. -/
def ofCount (record : String) (count : Nat) : String :=
  record ++ " with " ++ Text.ofNat count ++ " elements"

/-- The item with index `i` of an array that stands for a record of `count` fields. -/
def decodeItem {α : Type} (record : String) (count : Nat) (items : List Draft) (i : Nat)
    (decode : Decoder α) : Except Mismatch α :=
  match items[i]? with
  | some d => decode d
  | none => .error (.tooShort i (ofCount record count))

/-- No item is left behind the fields of a record. -/
def noneLeft (origin : Origin) (count : Nat) (items : List Draft) : Except Mismatch Unit :=
  if items.length ≤ count then .ok ()
  else
    match origin with
    | .text => .error .malformed
    | .value => .error (.tooLong items.length)

/-! ## Whole texts and values -/

/-- Decodes a text. What follows the value matters only if the value decodes. -/
def decodeText {α : Type} (decode : Origin → Decoder α) (text : String) : Except Mismatch α := do
  let (d, ended) := ofText text
  let a ← decode .text d
  if ended then return a else .error .malformed

end Draft

namespace Json

/-- Decodes a value whose objects are taken in the order of their keys. -/
def decodeSorted {α : Type} (decode : Origin → Decoder α) (j : Json) : Except Mismatch α :=
  decode .value j.sorted.draft

end Json

end CircuitBreaker
