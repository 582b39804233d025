import Questionnaire.Field.Basic

/-! Compiled documents: slides of blocks, each of them text or a field. -/

namespace Questionnaire

/-- A field with the element it was read as and its markup. -/
structure CompiledField where
  header : FieldHeader
  element : Element
  markup : String
deriving DecidableEq, Repr

inductive Block where
  | text (content : String)
  | field (compiled : CompiledField)
deriving DecidableEq, Repr

def Block.field? : Block → Option CompiledField
  | text _ => none
  | field compiled => some compiled

/-- A heading with what follows it, or what precedes the first heading. -/
structure Slide where
  title : String
  /-- The name, unique in the document, that the ids of the fields start with. -/
  scope : String
  blocks : List Block
deriving DecidableEq, Repr

namespace Slide

def fields (slide : Slide) : List CompiledField := slide.blocks.filterMap Block.field?

def hasFields (slide : Slide) : Bool := !slide.fields.isEmpty

end Slide

structure Document where
  title : String
  slides : List Slide
deriving DecidableEq, Repr

def Document.fields (document : Document) : List CompiledField :=
  document.slides.flatMap Slide.fields

end Questionnaire
