/-
The shortest decimal text of a floating point number: the fewest digits that are nearer to it than
to any other number, and of those the nearest ones.
-/
import CircuitBreaker.Number.Double
import CircuitBreaker.Text.Digits

namespace CircuitBreaker.Double

/-- The numbers that round to a double, and the double itself, counted in quarters of its last
binary place: least, value and greatest. The ends belong to it where the mantissa is even. -/
def roundingInterval (x : Double) : Nat × Nat × Nat :=
  let low := if x.mantissa = Nat.pow 2 52 ∧ minExponent < x.exponent then 1 else 2
  (4 * x.mantissa - low, 4 * x.mantissa, 4 * x.mantissa + 2)

/-- The multiple of `10 ^ power` nearest to the double among those that round to it, if there is
one; of two that are equally near, the even one. -/
def onGrid (x : Double) (power : Int) : Option Nat :=
  let (low, value, high) := x.roundingInterval
  let quarter := x.exponent - 2
  -- `c * 10 ^ power` and `n` quarters compare as `c * grid` and `n * unit`
  let grid := Nat.pow 10 power.toNat * Nat.pow 2 (-quarter).toNat
  let unit := Nat.pow 10 (-power).toNat * Nat.pow 2 quarter.toNat
  let closed := x.mantissa % 2 = 0
  let inside (c : Nat) : Bool :=
    if closed then low * unit ≤ c * grid && c * grid ≤ high * unit
    else low * unit < c * grid && c * grid < high * unit
  let below := value * unit / grid
  let rest := 2 * (value * unit % grid)
  let roundedUp := grid < rest || (rest = grid && below % 2 = 1)
  let first := if roundedUp then below + 1 else below
  let second := if roundedUp then below else below + 1
  if inside first then some first else if inside second then some second else none

/-- The shortest digits `d` and the power of ten `p` such that `d * 10 ^ p` rounds to the double,
which is not zero: the coarsest decimal grid with such a point has the fewest digits. -/
def shortest (x : Double) : Nat × Int :=
  ((List.range 634).findSome? fun (step : Nat) =>
    let power : Int := 309 - step
    (x.onGrid power).map (·, power)).getD (0, 0)

/-- A power of ten as it follows the digits: the letter `e`, a sign, and the exponent. -/
def exponentChars (exponent : Int) : List Char :=
  'e' :: (if exponent < 0 then '-' else '+') :: Text.decimalDigits exponent.natAbs

/-- The shortest text of a finite double, with a point or an exponent in every case: positional
from `1e-5` up to `1e16`, with an exponent outside. -/
def text (x : Double) : String :=
  if x.mantissa = 0 then "0.0"
  else
    let (significand, power) := x.shortest
    let digits := Text.decimalDigits significand
    let count : Int := digits.length
    let point := count + power
    let zeros (n : Int) : List Char := List.replicate n.toNat '0'
    let exponent := exponentChars (point - 1)
    String.ofList <|
      if 0 ≤ power ∧ point ≤ 16 then digits ++ zeros power ++ ['.', '0']
      else if 0 < point ∧ point ≤ 16 then
        digits.take point.toNat ++ '.' :: digits.drop point.toNat
      else if -5 < point ∧ point ≤ 0 then '0' :: '.' :: zeros (-point) ++ digits
      else if count = 1 then digits ++ exponent
      else digits.take 1 ++ '.' :: digits.drop 1 ++ exponent

end CircuitBreaker.Double
