import Questionnaire.Number.Double

/-! The fewest decimal digits that read back as a number of double precision, and of those the
nearest ones. All comparisons are between natural numbers, so nothing is lost on the way. -/

namespace Questionnaire.Double

/-- The numbers that are read as one double, in quarters of the last binary digit of its mantissa.
Its two ends are read as it if the mantissa is even. -/
structure Interval where
  low : Nat
  middle : Nat
  high : Nat
  closed : Bool
deriving DecidableEq, Repr

namespace Interval

/-- The interval of a double that is not zero. Below a power of two the neighbour is nearer. -/
def of (mantissa : Nat) (exponent : Int) : Interval :=
  let atPower := mantissa = mantissaLimit / 2 ∧ leastExponent < exponent
  { low := 4 * mantissa - (if atPower then 1 else 2)
    middle := 4 * mantissa
    high := 4 * mantissa + 2
    closed := mantissa % 2 = 0 }

/-- Whether a natural number lies in the interval, for quarters of the size of a ratio. -/
def holds (interval : Interval) (quarter : Ratio) (n : Nat) : Bool :=
  let point := n * quarter.den
  let low := interval.low * quarter.num
  let high := interval.high * quarter.num
  if interval.closed then low ≤ point && point ≤ high else low < point && point < high

/-- The natural number in the interval that is nearest to its middle; of two, the larger one. -/
def nearest? (interval : Interval) (quarter : Ratio) : Option Nat :=
  let middle := interval.middle * quarter.num
  let below := middle / quarter.den
  match interval.holds quarter below, interval.holds quarter (below + 1) with
  | true, true =>
    some (if 2 * middle < (2 * below + 1) * quarter.den then below else below + 1)
  | true, false => some below
  | false, true => some (below + 1)
  | false, false => none

end Interval

def enoughDigits : Nat := 17

def shortest (negative : Bool) (mantissa : Nat) (exponent : Int) : Decimal :=
  let interval := Interval.of mantissa exponent
  let quarter := magnitude 1 (exponent - 2)
  let leading := (magnitude mantissa exponent).leadingPower
  let attempt (dropped : Nat) : Option Decimal :=
    let unit : Int := leading - dropped
    (interval.nearest? (quarter.scale 10 (-unit))).map fun digits => ⟨negative, digits, unit⟩
  ((List.range enoughDigits).findSome? attempt).getD ⟨negative, 0, 0⟩

def text : Double → String
  | finite negative mantissa exponent =>
    if mantissa = 0 then (Decimal.mk negative 0 0).text
    else (shortest negative mantissa exponent).text
  | infinite negative => if negative then "-inf" else "inf"
  | nan => "NaN"

/-- The shortest positional form, with a point also where there is no fraction. -/
def pointedText : Double → String
  | finite negative mantissa exponent =>
    let text := (finite negative mantissa exponent).text
    if text.contains '.' then text else text ++ ".0"
  | other => other.text

end Questionnaire.Double
