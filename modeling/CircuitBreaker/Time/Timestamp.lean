/-
Points of universal time, to the nanosecond, within the years that can be represented. A leap
second is kept: it is the last second of its minute, with a nanosecond part past one second.
-/
import CircuitBreaker.Time.Calendar
import CircuitBreaker.Time.Duration

namespace CircuitBreaker

namespace Timestamp

/-- The number of the day that starts at second 0. -/
def epochDay : Int := Date.dayNumber ⟨1970, 1, 1⟩

/-- The first year in which a point of time can lie. -/
def firstYear : Int := -262143

/-- The last year in which a point of time can lie. -/
def lastYear : Int := 262142

/-- The first second that can be represented. -/
def firstSecond : Int := (Date.daysBeforeYear firstYear - epochDay) * 86400

/-- The last second that can be represented. -/
def lastSecond : Int := (Date.daysBeforeYear (lastYear + 1) - epochDay) * 86400 - 1

/-- A second within the represented years, and a nanosecond part that reaches past one second only
in the last second of a minute. -/
def Representable (seconds : Int) (nanos : Nat) : Prop :=
  firstSecond ≤ seconds ∧ seconds ≤ lastSecond ∧
    (nanos < 1000000000 ∨ (nanos < 2000000000 ∧ seconds % 60 = 59))

instance (seconds : Int) (nanos : Nat) : Decidable (Representable seconds nanos) :=
  inferInstanceAs (Decidable (_ ∧ _ ∧ _))

end Timestamp

/-- A point of universal time: whole seconds since the start of 1970, negative before it, and
nanoseconds that count forward from there. -/
structure Timestamp where
  seconds : Int
  nanos : Nat
  representable : Timestamp.Representable seconds nanos
deriving DecidableEq

namespace Timestamp

/-- The point with these seconds and nanoseconds, if it can be represented. -/
def of? (seconds : Int) (nanos : Nat) : Option Timestamp :=
  if h : Representable seconds nanos then some ⟨seconds, nanos, h⟩ else none

/-- The start of 1970. -/
def epoch : Timestamp := ⟨0, 0, by decide⟩

instance : Inhabited Timestamp := ⟨epoch⟩

/-- The date on which the point falls. -/
def date (t : Timestamp) : Date := Date.ofDayNumber (t.seconds / 86400 + epochDay)

/-- How many seconds of its day lie before the point. -/
def secondOfDay (t : Timestamp) : Nat := (t.seconds % 86400).toNat

/-- The point that lies `d` later, if it can be represented. Time within a leap second counts as
time within the second after it. So from a point within a leap second, what lies after it comes out
one second later than in a calendar that passes over the leap second as it adds. No clock is moved from
such a point: it starts at the time of the system, which has no leap seconds, and a sum is never within
one. -/
def add? (t : Timestamp) (d : Duration) : Option Timestamp :=
  let nanos := t.nanos + d.nanos
  of? (t.seconds + nanos / 1000000000) (nanos % 1000000000)

/-- The time that has passed since `start`: none if the point lies before it. -/
def since (t start : Timestamp) : Duration :=
  ⟨((t.seconds - start.seconds) * 1000000000 + t.nanos - start.nanos).toNat⟩

end Timestamp

end CircuitBreaker
