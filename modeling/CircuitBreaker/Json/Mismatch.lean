/-
Why JSON does not decode to a wanted value, and the text that reports it.
-/
import CircuitBreaker.Json.Draft
import CircuitBreaker.Number.Shortest
import CircuitBreaker.Text.Quoted
import CircuitBreaker.Time.Rfc3339

namespace CircuitBreaker

/-- What stood in the place of a wanted value. -/
inductive Found
  | null
  | bool (value : Bool)
  | number (value : Json.Number)
  | string (value : String)
  | array
  | object
deriving DecidableEq, Repr

/-- The words for what stood there. Scalars are shown. -/
def Found.text : Found → String
  | null => "null"
  | bool b => "boolean `" ++ (if b then "true" else "false") ++ "`"
  | number (.integer n) => "integer `" ++ Text.ofInt n ++ "`"
  | number (.real negative x) =>
    "floating point `" ++ (if negative then "-" else "") ++ x.text ++ "`"
  | string s => "string " ++ Text.quoted s
  | array => "sequence"
  | object => "map"

/-- Why JSON does not decode to a wanted value. -/
inductive Mismatch
  /-- The text is not JSON. -/
  | malformed
  /-- Something of another kind than the wanted one. -/
  | wrongType (found : Found) (expected : String)
  /-- An integer outside the range of the wanted ones. -/
  | outOfRange (found : Int) (expected : String)
  /-- An object with more or fewer keys than the one that names a variant. -/
  | notSingleKey
  | missingField (field : String)
  | duplicateField (field : String)
  | unknownVariant (found : String) (known : List String)
  /-- An array that ends before the item with index `count`. -/
  | tooShort (count : Nat) (expected : String)
  /-- An array of `count` items, which are too many. -/
  | tooLong (count : Nat)
  /-- A text that is not a point of time. -/
  | badTime (cause : TimeError)
deriving DecidableEq, Repr

/-- The text that reports the mismatch. -/
def Mismatch.message : Mismatch → String
  | malformed => "malformed"
  | wrongType found expected => "invalid type: " ++ found.text ++ ", expected " ++ expected
  | outOfRange n expected =>
    "invalid value: integer `" ++ Text.ofInt n ++ "`, expected " ++ expected
  | notSingleKey => "invalid value: map, expected map with a single key"
  | missingField field => "missing field `" ++ field ++ "`"
  | duplicateField field => "duplicate field `" ++ field ++ "`"
  | unknownVariant found known =>
    "unknown variant `" ++ found ++ "`, expected one of " ++
      ", ".intercalate (known.map fun name => "`" ++ name ++ "`")
  | tooShort count expected => "invalid length " ++ Text.ofNat count ++ ", expected " ++ expected
  | tooLong count =>
    "invalid length " ++ Text.ofNat count ++ ", expected fewer elements in array"
  | badTime cause => cause.message

end CircuitBreaker
