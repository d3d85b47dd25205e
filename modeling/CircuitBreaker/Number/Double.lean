/-
Nonnegative binary floating point numbers of 53 bits, as exact multiples of powers of two, and the
product and quotient of two of them, each rounded to the nearest number, ties to the even mantissa.
-/

namespace CircuitBreaker

/-- The number `mantissa * 2 ^ exponent`. Results of rounding have a mantissa below `2 ^ 53`, and
one of at least `2 ^ 52` unless the exponent is the least one. -/
structure Double where
  mantissa : Nat
  exponent : Int
deriving DecidableEq, Repr

namespace Double

/-- The least exponent, that of the subnormal numbers. -/
def minExponent : Int := -1074

/-- The greatest exponent of a finite number. -/
def maxExponent : Int := 971

/-- Zero. -/
def zero : Double := ⟨0, minExponent⟩

/-- The number is not past the largest finite one. -/
def isFinite (x : Double) : Bool := x.exponent ≤ maxExponent

/-- The quotient of two natural numbers, rounded to the nearest, ties to the even one. -/
def divNearest (num den : Nat) : Nat :=
  let quotient := num / den
  let rest := 2 * (num % den)
  if den < rest ∨ (rest = den ∧ quotient % 2 = 1) then quotient + 1 else quotient

/-- The number nearest to `num / den * 2 ^ exponent`. -/
def nearest (num den : Nat) (exponent : Int) : Double :=
  if num = 0 then zero
  else
    -- the quotient lies between `2 ^ (size - 1)` and `2 ^ (size + 1)`
    let size : Int := (Nat.log2 num : Int) - Nat.log2 den
    let shifted (shift : Int) : Nat × Nat :=
      (num * Nat.pow 2 (-shift).toNat, den * Nat.pow 2 shift.toNat)
    let wide := shifted (size - 53)
    let fit := if Nat.pow 2 53 * wide.2 ≤ wide.1 then size - 52 else size - 53
    let shift := max fit (minExponent - exponent)
    let (num, den) := shifted shift
    let mantissa := divNearest num den
    if mantissa = Nat.pow 2 53 then ⟨Nat.pow 2 52, shift + exponent + 1⟩
    else ⟨mantissa, shift + exponent⟩

/-- The number nearest to a natural number. -/
def ofNat (n : Nat) : Double := nearest n 1 0

/-- The number nearest to a power of ten. -/
def powerOfTen (n : Nat) : Double := ofNat (Nat.pow 10 n)

/-- The rounded product. -/
def mul (x y : Double) : Double :=
  nearest (x.mantissa * y.mantissa) 1 (x.exponent + y.exponent)

/-- The rounded quotient by a number other than zero. -/
def div (x y : Double) : Double :=
  nearest x.mantissa y.mantissa (x.exponent - y.exponent)

/-- The number written as `significand * 10 ^ exponent`, found with one rounded product or quotient
by a power of ten of up to 308 zeros, and more quotients for smaller numbers. There is none past
the largest finite number. The rounding steps can miss the nearest number. -/
def ofDecimal (significand : Nat) (exponent : Int) : Option Double :=
  if 0 ≤ exponent then
    if significand = 0 then some zero
    else if 308 < exponent then none
    else
      let x := (ofNat significand).mul (powerOfTen exponent.toNat)
      if x.isFinite then some x else none
  else
    -- three full quotients take every significand of 64 bits to zero
    let zeros := exponent.natAbs
    let full := (zeros - 1) / 308
    some ((shrink (min full 3) (ofNat significand)).div (powerOfTen (zeros - full * 308)))
where
  /-- Divides by a power of ten with 308 zeros, `times` times. -/
  shrink : Nat → Double → Double
    | 0, x => x
    | times + 1, x => shrink times (x.div (powerOfTen 308))

end Double

end CircuitBreaker
