import Questionnaire.Text.LowerCase

/-! What a caller may choose: how fields are drawn, how forms are submitted, and what happens to a
document with a malformed field. -/

namespace Questionnaire

structure FieldOptions where
  /-- Rows of a text area that does not give its own. -/
  defaultRows : Nat := 3
  /-- Text of the disabled option that opens every select. -/
  placeholder : String := ""
deriving DecidableEq, Repr

structure FormOptions where
  method : String := "post"
  /-- Where the form is sent; empty for the page itself. -/
  action : String := ""
  /-- Text of the submit button; empty for no button. -/
  submitLabel : String := ""
deriving DecidableEq, Repr

/-- What a malformed field does to its document. -/
inductive Policy where
  /-- The document fails with the first malformed field. -/
  | strict
  /-- The block stays in the document as text. -/
  | lenient
deriving DecidableEq, Repr

def Policy.ofName? (name : String) : Option Policy :=
  let lowered := Text.lowercase name.toList
  if lowered = "strict".toList then some .strict
  else if lowered = "lenient".toList then some .lenient
  else none

end Questionnaire
