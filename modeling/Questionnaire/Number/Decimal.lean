/-! Numbers as they are written: a sign, decimal digits, and a power of ten. -/

namespace Questionnaire

/-- The number `digits * 10 ^ exponent`, or its negative. Zero has a sign too. -/
structure Decimal where
  negative : Bool
  digits : Nat
  exponent : Int
deriving DecidableEq, Repr

namespace Decimal

def dropZeros : (scale digits : Nat) → Nat × Nat
  | 0, digits => (0, digits)
  | scale + 1, digits =>
    if digits % 10 = 0 then dropZeros scale (digits / 10) else (scale + 1, digits)

/-- The digits of a number that has a fraction of a number of places. -/
def placesText (places digits : Nat) : String :=
  if places = 0 then toString digits
  else
    let fraction := toString (digits % Nat.pow 10 places)
    toString (digits / Nat.pow 10 places) ++ "." ++
      String.ofList (List.replicate (places - fraction.length) '0') ++ fraction

/-- The positional form: no zeros at the end of the fraction, and no point without one. -/
def text (d : Decimal) : String :=
  let magnitude :=
    if 0 ≤ d.exponent then toString (d.digits * Nat.pow 10 d.exponent.toNat)
    else
      let (places, digits) := dropZeros d.exponent.natAbs d.digits
      placesText places digits
  (if d.negative then "-" else "") ++ magnitude

end Decimal
end Questionnaire
