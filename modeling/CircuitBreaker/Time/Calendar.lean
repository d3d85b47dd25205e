/-
The Gregorian calendar without a beginning: the number of the day on which a date falls, and the
date of a day. Days count from the first of January of the year 0; years before it are negative.
-/

namespace CircuitBreaker

/-- A calendar date. `Date.Valid` says when such a day exists. -/
structure Date where
  year : Int
  month : Nat
  day : Nat
deriving DecidableEq, Repr

namespace Date

/-- Every fourth year has a leap day, except every hundredth, but every four hundredth has. -/
def isLeapYear (year : Int) : Bool :=
  year % 4 = 0 && (year % 100 ≠ 0 || year % 400 = 0)

/-- The lengths of the twelve months. -/
def monthLengths (year : Int) : List Nat :=
  [31, if isLeapYear year then 29 else 28, 31, 30, 31, 30, 31, 31, 30, 31, 30, 31]

/-- The length of the month with this number; a month that does not exist has no days. -/
def monthLength (year : Int) (month : Nat) : Nat :=
  if month = 0 then 0 else (monthLengths year)[month - 1]?.getD 0

/-- The day exists: its month does, and is long enough. -/
def Valid (date : Date) : Prop :=
  1 ≤ date.day ∧ date.day ≤ monthLength date.year date.month

instance (date : Date) : Decidable date.Valid :=
  inferInstanceAs (Decidable (_ ∧ _))

/-- How many days lie between the first day of the year 0 and the first day of `year`. -/
def daysBeforeYear (year : Int) : Int :=
  365 * year + (year + 3) / 4 - (year + 99) / 100 + (year + 399) / 400

/-- How many days of `year` lie before its month with this number. -/
def daysBeforeMonth (year : Int) (month : Nat) : Nat :=
  ((monthLengths year).take (month - 1)).foldr (· + ·) 0

/-- The number of the day on which the date falls. -/
def dayNumber (date : Date) : Int :=
  daysBeforeYear date.year + daysBeforeMonth date.year date.month + (date.day - 1 : Nat)

/-- The year in which a day lies. The mean length of a year gives an estimate that is at most one
year off. -/
def yearOfDay (number : Int) : Int :=
  let low := number * 400 / 146097 - 1
  if number < daysBeforeYear (low + 1) then low
  else if number < daysBeforeYear (low + 2) then low + 1
  else low + 2

/-- Finds the month that holds the day with index `rest`, given the lengths of the months from
`month` on; the second component is the day's index within it. -/
def locateMonth (month : Nat) : List Nat → Nat → Nat × Nat
  | [], rest => (month, rest)
  | length :: lengths, rest =>
    if rest < length then (month, rest) else locateMonth (month + 1) lengths (rest - length)

/-- The date of a day. -/
def ofDayNumber (number : Int) : Date :=
  let year := yearOfDay number
  let (month, index) := locateMonth 1 (monthLengths year) (number - daysBeforeYear year).toNat
  ⟨year, month, index + 1⟩

end Date

end CircuitBreaker
