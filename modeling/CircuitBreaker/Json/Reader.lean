/-
Reading JSON text. Every text gives a draft: reading goes on as long as the text is JSON and marks
the place where it stops being so.
-/
import CircuitBreaker.Json.Draft
import CircuitBreaker.Text.Digits

namespace CircuitBreaker.Draft

/-- The white space of JSON. -/
def isSpace (c : Char) : Bool :=
  c = ' ' || c = '\n' || c = '\t' || c = '\r'

/-- The text without the white space it starts with. -/
def skipSpace (s : List Char) : List Char :=
  s.dropWhile isSpace

/-! ## Strings -/

/-- The parts of a string: characters, and the 16-bit units that escapes give by number. -/
inductive Piece
  | char (c : Char)
  | unit (n : Nat)

/-- The value of a hexadecimal digit. -/
def hexValue? (c : Char) : Option Nat :=
  if '0' ≤ c ∧ c ≤ '9' then some (c.toNat - 48)
  else if 'a' ≤ c ∧ c ≤ 'f' then some (c.toNat - 87)
  else if 'A' ≤ c ∧ c ≤ 'F' then some (c.toNat - 55)
  else none

/-- The unit that four hexadecimal digits give. -/
def unit? (a b c d : Char) : Option Nat := do
  return (((← hexValue? a) * 16 + (← hexValue? b)) * 16 + (← hexValue? c)) * 16 + (← hexValue? d)

/-- The character that a backslash and this character stand for. -/
def escaped? : Char → Option Char
  | '"' => some '"'
  | '\\' => some '\\'
  | '/' => some '/'
  | 'b' => some '\x08'
  | 'f' => some '\x0c'
  | 'n' => some '\n'
  | 'r' => some '\r'
  | 't' => some '\t'
  | _ => none

/-- The parts of a string up to its closing quote, and the text behind it. -/
def pieces : List Char → Option (List Piece × List Char)
  | [] => none
  | '"' :: rest => some ([], rest)
  | '\\' :: 'u' :: a :: b :: c :: d :: rest =>
    match unit? a b c d, pieces rest with
    | some n, some (ps, rest) => some (.unit n :: ps, rest)
    | _, _ => none
  | '\\' :: c :: rest =>
    match escaped? c, pieces rest with
    | some c, some (ps, rest) => some (.char c :: ps, rest)
    | _, _ => none
  | c :: rest =>
    if c.toNat < 0x20 then none
    else
      match pieces rest with
      | some (ps, rest) => some (.char c :: ps, rest)
      | none => none

/-- The characters that the parts make, where each leading surrogate is followed by a trailing one
and no trailing one stands alone. -/
def joined? : List Piece → Option (List Char)
  | [] => some []
  | .char c :: ps => (joined? ps).map (c :: ·)
  | .unit n :: ps =>
    if 0xdc00 ≤ n ∧ n ≤ 0xdfff then none
    else if 0xd800 ≤ n ∧ n ≤ 0xdbff then
      match ps with
      | .unit m :: ps =>
        if 0xdc00 ≤ m ∧ m ≤ 0xdfff then
          (joined? ps).map (Char.ofNat ((n - 0xd800) * 0x400 + (m - 0xdc00) + 0x10000) :: ·)
        else none
      | _ => none
    else (joined? ps).map (Char.ofNat n :: ·)

/-- A string behind its opening quote, and the text behind it, if the string ends. -/
def readString (s : List Char) : Draft × Option (List Char) :=
  match pieces s with
  | none => (.malformed, none)
  | some (ps, rest) =>
    match joined? ps with
    | some cs => (.string (String.ofList cs), some rest)
    | none => (.unreadable, some rest)

/-! ## Numbers -/

/-- Appends digits to a significand as long as it fits into 64 bits, and counts those left out
after the first one that does not fit. -/
def fitDigits (start : Nat) : List Char → Nat × Nat
  | [] => (start, 0)
  | c :: rest =>
    let next := Text.appendDigits start [c]
    if next < UInt64.size then fitDigits next rest else (start, rest.length + 1)

/-- The digits and letters of a number: its sign, the digits before and behind the point, and its
exponent. -/
structure Numeral where
  negative : Bool
  whole : List Char
  fraction : Option (List Char)
  exponent : Option Int

/-- Whether digits can stand before the point: at least one, and no zero before another. -/
def isWhole (digits : List Char) : Bool :=
  match digits with
  | [] => false
  | ['0'] => true
  | '0' :: _ => false
  | _ => true

/-- A point and the digits behind it, if there is a point; `none` if no digit follows it. -/
def readFraction : List Char → Option (Option (List Char) × List Char)
  | '.' :: rest =>
    let digits := rest.takeWhile Text.isDigit
    if digits = [] then none else some (some digits, rest.dropWhile Text.isDigit)
  | s => some (none, s)

/-- A letter `e` and an exponent, if there is such a letter; `none` if no digit follows it. -/
def readExponent : List Char → Option (Option Int × List Char)
  | [] => some (none, [])
  | c :: rest =>
    if c = 'e' ∨ c = 'E' then
      let (negative, rest) :=
        match rest with
        | '+' :: rest => (false, rest)
        | '-' :: rest => (true, rest)
        | rest => (false, rest)
      let digits := rest.takeWhile Text.isDigit
      if digits = [] then none
      else
        let n : Int := Text.ofDigits digits
        some (some (if negative then -n else n), rest.dropWhile Text.isDigit)
    else some (none, c :: rest)

/-- A numeral at the start of the text, and the text behind it. -/
def readNumeral (s : List Char) : Option (Numeral × List Char) :=
  let (negative, s) :=
    match s with
    | '-' :: rest => (true, rest)
    | s => (false, s)
  let whole := s.takeWhile Text.isDigit
  if isWhole whole then do
    let (fraction, s) ← readFraction (s.dropWhile Text.isDigit)
    let (exponent, s) ← readExponent s
    some (⟨negative, whole, fraction, exponent⟩, s)
  else none

/-- The number that a numeral writes: an integer of 64 bits if it has neither point nor exponent
and fits, and a floating point number otherwise. Negative zero is not an integer. -/
def Numeral.number? (n : Numeral) : Option Json.Number :=
  let (significand, dropped) := fitDigits 0 n.whole
  let integer : Option Json.Number :=
    if n.fraction.isSome || n.exponent.isSome || dropped ≠ 0 then none
    else if !n.negative then some (.integer significand)
    else if significand ≠ 0 && significand ≤ Nat.pow 2 63 then some (.integer (-significand))
    else none
  integer.or <|
    let fraction := n.fraction.getD []
    let (significand, left) := fitDigits significand fraction
    let exponent : Int := dropped - (fraction.length - left : Nat) + n.exponent.getD 0
    (Double.ofDecimal significand exponent).map (.real n.negative)

/-- A number at the start of the text, and the text behind it. -/
def readNumber (s : List Char) : Draft × Option (List Char) :=
  match readNumeral s with
  | none => (.malformed, none)
  | some (numeral, rest) =>
    match numeral.number? with
    | some n => (.number n, some rest)
    | none => (.unreadable, some rest)

/-! ## Values -/

/-- The key of an entry, if it stands for a text, and the text behind its colon, if there is one. What
stands in a key's place without being a string ends the reading. -/
def readKey (s : List Char) : Option String × Option (List Char) :=
  match skipSpace s with
  | '"' :: rest =>
    match readString rest with
    | (key, none) => (key.string?, none)
    | (key, some rest) =>
      match skipSpace rest with
      | ':' :: rest => (key.string?, some rest)
      | _ => (key.string?, none)
  | _ => (none, none)

mutual

/-- The value at the start of the text, and the text behind it if the value is complete. -/
def readValue : Nat → List Char → Draft × Option (List Char)
  | 0, _ => (.malformed, none)
  | fuel + 1, s =>
    match skipSpace s with
    | '"' :: rest => readString rest
    | '[' :: rest =>
      match skipSpace rest with
      | ']' :: rest => (.array [], some rest)
      | rest =>
        let (items, rest) := readItems fuel rest
        (.array items, rest)
    | '{' :: rest =>
      match skipSpace rest with
      | '}' :: rest => (.object [], some rest)
      | rest =>
        let (entries, rest) := readEntries fuel rest
        (.object entries, rest)
    | 'n' :: 'u' :: 'l' :: 'l' :: rest => (.null, some rest)
    | 't' :: 'r' :: 'u' :: 'e' :: rest => (.bool true, some rest)
    | 'f' :: 'a' :: 'l' :: 's' :: 'e' :: rest => (.bool false, some rest)
    | s => readNumber s

/-- The items of an array from one of them on, and the text behind the array. -/
def readItems : Nat → List Char → List Draft × Option (List Char)
  | 0, _ => ([.malformed], none)
  | fuel + 1, s =>
    match readValue fuel s with
    | (item, none) => ([item], none)
    | (item, some rest) =>
      match skipSpace rest with
      | ',' :: rest =>
        let (items, rest) := readItems fuel rest
        (item :: items, rest)
      | ']' :: rest => ([item], some rest)
      | _ => ([item, .malformed], none)

/-- The entries of an object from one of them on, and the text behind the object. -/
def readEntries : Nat → List Char → List (Option String × Draft) × Option (List Char)
  | 0, _ => ([(none, .malformed)], none)
  | fuel + 1, s =>
    match readKey s with
    | (key, none) => ([(key, .malformed)], none)
    | (key, some rest) =>
      match readValue fuel rest with
      | (value, none) => ([(key, value)], none)
      | (value, some rest) =>
        match skipSpace rest with
        | ',' :: rest =>
          let (entries, rest) := readEntries fuel rest
          ((key, value) :: entries, rest)
        | '}' :: rest => ([(key, value)], some rest)
        | _ => ([(key, value), (none, .malformed)], none)

end

/-- What the text says, and whether nothing but white space follows it. Of two steps of reading in a
row at least one takes a character. -/
def ofText (text : String) : Draft × Bool :=
  let s := text.toList
  match readValue (2 * s.length + 2) s with
  | (draft, none) => (draft, false)
  | (draft, some rest) => (draft, (skipSpace rest).isEmpty)

end CircuitBreaker.Draft

namespace CircuitBreaker.Json

/-- The value that a JSON text writes, if all of it can be read. -/
def parse? (text : String) : Option Json :=
  match Draft.ofText text with
  | (draft, true) => draft.json?
  | (_, false) => none

end CircuitBreaker.Json
