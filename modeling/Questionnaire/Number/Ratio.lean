/-! Quotients of natural numbers, and the integers nearest to them. -/

namespace Questionnaire

structure Ratio where
  num : Nat
  den : Nat
deriving DecidableEq, Repr

namespace Ratio

def scale (ratio : Ratio) (base : Nat) (power : Int) : Ratio :=
  if 0 ≤ power then { ratio with num := ratio.num * Nat.pow base power.toNat }
  else { ratio with den := ratio.den * Nat.pow base power.natAbs }

def floor (ratio : Ratio) : Nat := ratio.num / ratio.den

/-- The nearest integer; of two, the even one. -/
def roundEven (ratio : Ratio) : Nat :=
  let below := ratio.num / ratio.den
  let rest := ratio.num % ratio.den
  if 2 * rest < ratio.den then below
  else if ratio.den < 2 * rest then below + 1
  else below + below % 2

/-- The nearest integer; of two, the larger one. -/
def roundUp (ratio : Ratio) : Nat := (2 * ratio.num + ratio.den) / (2 * ratio.den)

def digitCount (n : Nat) : Nat := (Nat.toDigits 10 n).length

def leadingPower (ratio : Ratio) : Int :=
  if ratio.den ≤ ratio.num then digitCount (ratio.num / ratio.den) - 1
  else
    let count := digitCount (ratio.den / ratio.num)
    if ratio.num * Nat.pow 10 (count - 1) = ratio.den then 1 - (count : Int) else -(count : Int)

end Ratio
end Questionnaire
