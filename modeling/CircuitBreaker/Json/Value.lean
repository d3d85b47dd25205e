/-
JSON values. An object is an ordered list of entries, in which a key may occur more than once.
-/
import CircuitBreaker.Number.Double

namespace CircuitBreaker

/-- A JSON number: an integer, or a number that was written with a fraction or an exponent or that
is too large for an integer, which has a sign of its own even at zero. -/
inductive Json.Number
  | integer (value : Int)
  | real (negative : Bool) (magnitude : Double)
deriving DecidableEq, Repr

/-- A JSON value. -/
inductive Json
  | null
  | bool (value : Bool)
  | number (value : Json.Number)
  | string (value : String)
  | array (items : List Json)
  | object (entries : List (String × Json))
deriving Repr, Inhabited

namespace Json

/-- An integer as a JSON value. -/
def int (n : Int) : Json := .number (.integer n)

/-- A natural number as a JSON value. -/
def nat (n : Nat) : Json := int n

/-- A value that may be absent: `null` if it is. -/
def optional {α : Type} (encode : α → Json) : Option α → Json
  | none => null
  | some a => encode a

/-- The entries with the value of `key` replaced, or added behind all smaller keys. -/
def insertSorted (key : String) (value : Json) : List (String × Json) → List (String × Json)
  | [] => [(key, value)]
  | (k, v) :: rest =>
    if key < k then (key, value) :: (k, v) :: rest
    else if key = k then (key, value) :: rest
    else (k, v) :: insertSorted key value rest

mutual

/-- The value with the keys of every object in ascending order. Of several entries with one key the
last remains. -/
def sorted : Json → Json
  | .array items => .array (sortedItems items)
  | .object entries => .object (sortedEntries [] entries)
  | .null => .null
  | .bool b => .bool b
  | .number n => .number n
  | .string s => .string s

/-- `sorted` on every item. -/
def sortedItems : List Json → List Json
  | [] => []
  | item :: items => sorted item :: sortedItems items

/-- Puts the sorted values of further entries among those that are in order. -/
def sortedEntries (ordered : List (String × Json)) : List (String × Json) → List (String × Json)
  | [] => ordered
  | (key, value) :: entries => sortedEntries (insertSorted key (sorted value) ordered) entries

end

/-- The value of the first entry with this key; `none` also if the value is not an object. -/
def field? (key : String) : Json → Option Json
  | .object entries => (entries.find? (·.1 = key)).map (·.2)
  | _ => none

end Json

end CircuitBreaker
