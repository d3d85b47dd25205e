/-
JSON values as text, on one line and without spaces.
-/
import CircuitBreaker.Json.Value
import CircuitBreaker.Number.Shortest
import CircuitBreaker.Text.Digits

namespace CircuitBreaker.Json

/-- A hexadecimal digit in lower case. -/
def hexChar (n : Nat) : Char :=
  if n < 10 then Char.ofNat (48 + n) else Char.ofNat (87 + n)

/-- One character of a string: quotes, backslashes and controls are escaped, and nothing else. -/
def printChar (c : Char) : List Char :=
  match c with
  | '"' => ['\\', '"']
  | '\\' => ['\\', '\\']
  | '\x08' => ['\\', 'b']
  | '\x0c' => ['\\', 'f']
  | '\n' => ['\\', 'n']
  | '\r' => ['\\', 'r']
  | '\t' => ['\\', 't']
  | c =>
    if c.toNat < 0x20 then
      ['\\', 'u', '0', '0', hexChar (c.toNat / 16), hexChar (c.toNat % 16)]
    else [c]

/-- A string between quotes. -/
def printString (s : String) : List Char :=
  '"' :: s.toList.flatMap printChar ++ ['"']

/-- A number: integers by their digits, other numbers by the shortest text that gives them back. -/
def printNumber : Number → List Char
  | .integer n => (Text.ofInt n).toList
  | .real negative x => (if negative then ['-'] else []) ++ x.text.toList

mutual

/-- A value. -/
def print : Json → List Char
  | .null => ['n', 'u', 'l', 'l']
  | .bool true => ['t', 'r', 'u', 'e']
  | .bool false => ['f', 'a', 'l', 's', 'e']
  | .number n => printNumber n
  | .string s => printString s
  | .array items => '[' :: printItems items
  | .object entries => '\x7b' :: printEntries entries

/-- The items of an array and its closing bracket. -/
def printItems : List Json → List Char
  | [] => [']']
  | [item] => print item ++ [']']
  | item :: items => print item ++ ',' :: printItems items

/-- The entries of an object and its closing brace. -/
def printEntries : List (String × Json) → List Char
  | [] => ['\x7d']
  | [(key, value)] => printString key ++ ':' :: print value ++ ['\x7d']
  | (key, value) :: entries => printString key ++ ':' :: print value ++ ',' :: printEntries entries

end

/-- The text of a value. -/
def text (j : Json) : String := String.ofList j.print

end CircuitBreaker.Json
