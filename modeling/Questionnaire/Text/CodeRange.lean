/-! Sets of code points given by tables of ranges. The tables ascend, so a search stops at the
first range that starts behind the wanted code point. -/

namespace Questionnaire.Text

/-- The code points from `first` to `last`, both included. -/
structure CodeRange where
  first : Nat
  last : Nat
deriving DecidableEq, Repr

def CodeRange.covers : List CodeRange → Nat → Bool
  | [], _ => false
  | range :: rest, code =>
    if code < range.first then false
    else decide (code ≤ range.last) || CodeRange.covers rest code

end Questionnaire.Text
