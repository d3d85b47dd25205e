/-
Decimal digits: numbers written with a fixed or with the least number of digits, and digits read
back as a number.
-/

namespace CircuitBreaker.Text

/-- The digit that stands for `n`, for `n < 10`. -/
def digitChar (n : Nat) : Char :=
  Char.ofNat (48 + n)

/-- The value of a decimal digit. Only `0` to `9` are digits. -/
def digitValue? (c : Char) : Option Nat :=
  if '0' ≤ c ∧ c ≤ '9' then some (c.toNat - 48) else none

/-- Whether a character is one of `0` to `9`. -/
def isDigit (c : Char) : Bool :=
  (digitValue? c).isSome

/-- The last `width` decimal digits of `n`, with leading zeros. -/
def fixedDigits : Nat → Nat → List Char
  | 0, _ => []
  | width + 1, n => fixedDigits width (n / 10) ++ [digitChar (n % 10)]

/-- How many decimal digits `n` has; zero has one. -/
def digitCount (n : Nat) : Nat :=
  if n < 10 then 1 else digitCount (n / 10) + 1

/-- The decimal digits of `n` without leading zeros. -/
def decimalDigits (n : Nat) : List Char :=
  fixedDigits (digitCount n) n

/-- The decimal digits of `n`, with leading zeros up to `width` digits. -/
def paddedDigits (width n : Nat) : List Char :=
  fixedDigits (max width (digitCount n)) n

/-- The number that follows `start` when the digits are appended to it; other characters count
as zero. -/
def appendDigits (start : Nat) (digits : List Char) : Nat :=
  digits.foldl (fun total c => total * 10 + (digitValue? c).getD 0) start

/-- The number that the digits write. -/
def ofDigits (digits : List Char) : Nat :=
  appendDigits 0 digits

/-- The digits without the zeros at their end. -/
def dropTrailingZeros (digits : List Char) : List Char :=
  (digits.reverse.dropWhile (· = '0')).reverse

/-- The decimal text of a natural number. -/
def ofNat (n : Nat) : String :=
  String.ofList (decimalDigits n)

/-- The decimal text of an integer, with a minus sign where it is negative. -/
def ofInt : Int → String
  | .ofNat n => ofNat n
  | .negSucc n => "-" ++ ofNat (n + 1)

end CircuitBreaker.Text
