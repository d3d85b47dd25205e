/-
Points of time as text in the form of RFC 3339. Writing gives universal time with as many groups of
three fraction digits as the point needs. Reading is lenient: blanks may stand before each part,
parts may lack leading zeros, years may carry a sign, and any offset from universal time is taken.
-/
import CircuitBreaker.Text.Blank
import CircuitBreaker.Text.Digits
import CircuitBreaker.Time.Timestamp

namespace CircuitBreaker

/-- Why a text is not read as a point of time. -/
inductive TimeError
  | outOfRange
  | impossible
  | invalid
  | tooShort
  | trailing
deriving DecidableEq, Repr

namespace TimeError

/-- The text that reports the error. -/
def message : TimeError → String
  | outOfRange => "input is out of range"
  | impossible => "no possible date and time matching input"
  | invalid => "input contains invalid characters"
  | tooShort => "premature end of input"
  | trailing => "trailing input"

end TimeError

namespace Timestamp

/-! ## Writing -/

/-- A year: four digits from 0 to 9999, and a sign and at least four digits outside. -/
def yearDigits (year : Int) : List Char :=
  if 0 ≤ year ∧ year ≤ 9999 then Text.fixedDigits 4 year.toNat
  else (if year < 0 then '-' else '+') :: Text.paddedDigits 4 year.natAbs

/-- The fraction of a second: nothing, or a point and the first of three, six and nine digits that
lose nothing. -/
def fractionDigits (nanos : Nat) : List Char :=
  if nanos = 0 then []
  else if nanos % 1000000 = 0 then '.' :: Text.fixedDigits 3 (nanos / 1000000)
  else if nanos % 1000 = 0 then '.' :: Text.fixedDigits 6 (nanos / 1000)
  else '.' :: Text.fixedDigits 9 nanos

/-- The point in universal time, character by character. -/
def chars (t : Timestamp) : List Char :=
  let date := t.date
  let second := t.secondOfDay % 60 + t.nanos / 1000000000
  yearDigits date.year ++ '-' :: Text.fixedDigits 2 date.month ++ '-' :: Text.fixedDigits 2 date.day ++
    'T' :: Text.fixedDigits 2 (t.secondOfDay / 3600) ++
    ':' :: Text.fixedDigits 2 (t.secondOfDay / 60 % 60) ++ ':' :: Text.fixedDigits 2 second ++
    fractionDigits (t.nanos % 1000000000) ++ ['Z']

/-- The point in universal time, such as `2024-02-29T12:00:00.500Z`. -/
def text (t : Timestamp) : String := String.ofList t.chars

/-! ## Reading -/

/-- A step of reading: what it takes from the text, and what it makes of it. -/
abbrev Scan := StateT (List Char) (Except TimeError)

/-- One to `width` digits. -/
def digits (width : Nat) : Scan (List Char) := do
  match ← get with
  | [] => throw .tooShort
  | c :: rest =>
    if Text.isDigit c then
      let taken := ((c :: rest).take width).takeWhile Text.isDigit
      set ((c :: rest).drop taken.length)
      return taken
    else throw .invalid

/-- A number of one or two digits from `low` to `high`; blanks may stand before it. -/
def part (low high : Nat) : Scan Nat := do
  modify Text.trimStart
  let n := Text.ofDigits (← digits 2)
  if low ≤ n ∧ n ≤ high then return n else throw .outOfRange

/-- The character `c`; blanks may stand before it. -/
def mark (c : Char) : Scan Unit := do
  modify Text.trimStart
  match ← get with
  | [] => throw .tooShort
  | d :: rest => if d = c then set rest else throw .invalid

/-- A year that fits into 32 bits: up to four digits, or a sign and any number of digits. -/
def yearPart : Scan Int := do
  modify Text.trimStart
  let s ← get
  let year : Int ← match s with
    | '-' :: rest => do
      set rest
      pure (-(Text.ofDigits (← digits rest.length) : Int))
    | '+' :: rest => do
      set rest
      pure (Text.ofDigits (← digits rest.length) : Int)
    | _ => pure (Text.ofDigits (← digits 4) : Int)
  if -2147483648 ≤ year ∧ year ≤ 2147483647 then return year else throw .outOfRange

/-- What separates the date from the time of day. -/
def separator : Scan Unit := do
  match ← get with
  | [] => throw .tooShort
  | c :: rest => if c = 'T' ∨ c = 't' ∨ c = ' ' then set rest else throw .invalid

/-- The fraction of a second in nanoseconds; digits after the ninth are passed over. -/
def fractionPart : Scan Nat := do
  match ← get with
  | '.' :: rest => do
    set rest
    let taken ← digits 9
    modify (·.dropWhile Text.isDigit)
    return Text.ofDigits taken * Nat.pow 10 (9 - taken.length)
  | _ => return 0

/-- Two digits where nothing else will do. A text shorter than two bytes has ended too soon. -/
def twoDigits : Scan (Nat × Nat) := do
  match ← get with
  | [] => throw .tooShort
  | [c] => if c.toNat < 128 then throw .tooShort else throw .invalid
  | a :: b :: rest =>
    match Text.digitValue? a, Text.digitValue? b with
    | some x, some y => do
      set rest
      return (x, y)
    | _, _ => throw .invalid

/-- Hours and minutes of an offset, in seconds. Colons and blanks may stand between them. -/
def offsetAmount : Scan Int := do
  let (h, h') ← twoDigits
  modify (·.dropWhile fun c => c = ':' || Text.isBlank c)
  let (m, m') ← twoDigits
  if m < 6 then return ((h * 10 + h') * 3600 + (m * 10 + m') * 60 : Nat) else throw .outOfRange

/-- An offset from universal time in seconds: `UTC` or `Z` in either case, or a sign, hours and
minutes. -/
def offsetPart : Scan Int := do
  match ← get with
  | u :: t :: c :: rest =>
    if u.toUpper = 'U' ∧ t.toUpper = 'T' ∧ c.toUpper = 'C' then do
      set rest
      return 0
    else signed
  | _ => signed
where
  signed : Scan Int := do
    match ← get with
    | [] => throw .tooShort
    | c :: rest =>
      if c = 'Z' ∨ c = 'z' then do
        set rest
        return 0
      else if c = '+' then do
        set rest
        offsetAmount
      else if c = '-' ∨ c = '\u2212' then do
        set rest
        return -(← offsetAmount)
      else throw .invalid

/-- A date and a time of day as they were written, and their offset from universal time. -/
structure Written where
  date : Date
  hour : Nat
  minute : Nat
  second : Nat
  nanos : Nat
  offset : Int

/-- The parts of a text, in order. -/
def written : Scan Written := do
  let year ← yearPart
  mark '-'
  let month ← part 1 12
  mark '-'
  let day ← part 1 31
  separator
  let hour ← part 0 23
  mark ':'
  let minute ← part 0 59
  mark ':'
  let second ← part 0 60
  let nanos ← fractionPart
  modify Text.trimStart
  let offset ← offsetPart
  if (Text.trimStart (← get)).isEmpty then
    return ⟨⟨year, month, day⟩, hour, minute, second, nanos, offset⟩
  else throw .trailing

/-- The point that the parts name. The second 60 is the leap second after 59. -/
def Written.point (w : Written) : Except TimeError Timestamp :=
  if ¬ (w.date.Valid ∧ firstYear ≤ w.date.year ∧ w.date.year ≤ lastYear) then .error .outOfRange
  else if ¬ (-86400 < w.offset ∧ w.offset < 86400) then .error .outOfRange
  else
    let second := if w.second = 60 then 59 else w.second
    let nanos := if w.second = 60 then w.nanos + 1000000000 else w.nanos
    let timeOfDay := w.hour * 3600 + w.minute * 60 + second
    let seconds := (w.date.dayNumber - epochDay) * 86400 + timeOfDay - w.offset
    match of? seconds nanos with
    | some t => .ok t
    | none => .error .impossible

/-- Reads a point of time. -/
def parse (s : String) : Except TimeError Timestamp := do
  let (w, _) ← written.run s.toList
  w.point

end Timestamp

end CircuitBreaker
