import Questionnaire.Number.Decimal
import Questionnaire.Number.Ratio

/-! Numbers of double precision: 53 binary digits and a bounded power of two, the infinities, and
what is no number. A decimal is read as the nearest of them, and of two as the even one. -/

namespace Questionnaire

inductive Double where
  /-- The number `mantissa * 2 ^ exponent`, or its negative. -/
  | finite (negative : Bool) (mantissa : Nat) (exponent : Int)
  | infinite (negative : Bool)
  | nan
deriving DecidableEq, Repr

namespace Double

def precision : Nat := 53

def leastExponent : Int := -1074

def greatestExponent : Int := 971

def mantissaLimit : Nat := Nat.pow 2 precision

/-- The exponent at which the mantissa of a ratio has all its digits, or the smallest one. -/
def exponentOf (ratio : Ratio) : Int :=
  let width : Int := ratio.num.log2 - ratio.den.log2
  let guess := max leastExponent (width - precision)
  if (ratio.scale 2 (-guess)).floor < mantissaLimit then guess else guess + 1

def ofRatio (negative : Bool) (ratio : Ratio) : Double :=
  let exponent := exponentOf ratio
  let mantissa := (ratio.scale 2 (-exponent)).roundEven
  let (mantissa, exponent) :=
    if mantissa < mantissaLimit then (mantissa, exponent) else (mantissaLimit / 2, exponent + 1)
  if greatestExponent < exponent then infinite negative else finite negative mantissa exponent

/-- The number nearest to a decimal. Those far out of range are not computed with. -/
def ofDecimal (d : Decimal) : Double :=
  let size := Ratio.digitCount d.digits + d.exponent
  if d.digits = 0 || size < -330 then finite d.negative 0 leastExponent
  else if 310 < size then infinite d.negative
  else ofRatio d.negative (Ratio.scale ⟨d.digits, 1⟩ 10 d.exponent)

def magnitude (mantissa : Nat) (exponent : Int) : Ratio := Ratio.scale ⟨mantissa, 1⟩ 2 exponent

/-- The nearest natural number up to a limit. A half goes up, and what is below zero or no number
counts as zero. -/
def toNat (limit : Nat) : Double → Nat
  | finite false mantissa exponent => min limit (magnitude mantissa exponent).roundUp
  | infinite false => limit
  | finite true _ _ | infinite true | nan => 0

end Double
end Questionnaire
