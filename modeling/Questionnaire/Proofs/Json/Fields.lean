import Questionnaire.Proofs.Json.Document

/-! # The fields of a dump

The list of the fields of a document can be taken from its dump, without the document: from the blocks
of the slides that have the type of a field, the header and the element of each.
-/

namespace Questionnaire

namespace Json

def items? : Json → Option (List Json)
  | array items => some items
  | _ => none

def blocks? (slide : Json) : Option (List Json) := do (← slide.member? "blocks").items?

def isField (block : Json) : Bool := (block.member? "type").bind string? = some "field"

def fieldEntry? (block : Json) : Option Json := do
  let content ← block.member? "content"
  return .object [("spec", ← content.member? "spec"), ("element", ← content.member? "element")]

/-- The list of the fields of a dump: the headers and elements of the blocks that have a field, in
their order. -/
def fieldList? (dump : Json) : Option Json := do
  let slides ← (← dump.member? "slides").items?
  let blocks ← slides.mapM blocks?
  let entries ← (blocks.flatten.filter isField).mapM fieldEntry?
  return .array entries

end Json

theorem Slide.blocks?_toJson (slide : Slide) :
    slide.toJson.blocks? = some (slide.blocks.map Block.toJson) := by
  simp [Json.blocks?, toJson, Json.items?]

/-- The blocks with a field are told by their type. -/
theorem fieldEntries_of_dump (blocks : List Block) :
    ((blocks.map Block.toJson).filter Json.isField).mapM Json.fieldEntry? =
      some ((blocks.filterMap Block.field?).map CompiledField.report) := by
  induction blocks with
  | nil => rfl
  | cons block blocks ih =>
    cases block with
    | text content =>
      have skipped : (Block.text content).toJson.isField = false := by
        simp [Json.isField, Block.toJson]
      rw [List.map_cons, List.filter_cons_of_neg (by simp [skipped]), ih]
      rfl
    | field compiled =>
      have taken : (Block.field compiled).toJson.isField = true := by
        simp [Json.isField, Block.toJson]
      have entry : (Block.field compiled).toJson.fieldEntry? = some compiled.report := by
        simp [Json.fieldEntry?, Block.toJson, CompiledField.toJson, CompiledField.report]
      rw [List.map_cons, List.filter_cons_of_pos taken, List.mapM_cons, entry, ih]
      rfl

namespace Document

/-- The list of the fields of a document is that of its dump. -/
theorem fieldList?_toJson (document : Document) :
    document.toJson.fieldList? = some document.fieldReport := by
  have slides : document.toJson.member? "slides" =
      some (.array (document.slides.map Slide.toJson)) := by
    simp [toJson]
  have blocks : (document.slides.map fun slide => slide.blocks.map Block.toJson).flatten =
      (document.slides.flatMap Slide.blocks).map Block.toJson := by
    rw [List.map_flatMap, List.flatMap]
  have fields : (document.slides.flatMap Slide.blocks).filterMap Block.field? = document.fields :=
    List.filterMap_flatMap
  simp only [Json.fieldList?, slides, Json.items?, Option.bind_eq_bind, Option.bind_some,
    Json.mapM_map_eq_some Slide.blocks?_toJson, blocks, fieldEntries_of_dump, fields]
  rfl

end Document

/-- With the fields alone asked for, and nothing else, their list is written. -/
theorem Format.json_writeWith_fieldsOnly (document : Document) {parameters : Parameters}
    (known : ∀ name, name ≠ fieldsOnly → parameters.lookup name = none)
    (only : parameters.lookup fieldsOnly = some "true") :
    Format.json.writeWith document parameters = .ok document.fieldReport.pretty := by
  have accepted : (parameters.any fun entry => decide (entry.1 ≠ fieldsOnly)) = false := by
    rw [List.any_eq_false]
    rintro ⟨name, value⟩ hm
    by_contra other
    have missing := List.lookup_eq_none_iff.mp (known name (by simpa using other)) _ hm
    simp at missing
  change (if (parameters.any fun entry => decide (entry.1 ≠ fieldsOnly)) = true then _
    else if parameters.lookup fieldsOnly = some "true" then _ else _) = _
  rw [accepted, if_neg Bool.false_ne_true, if_pos only]

end Questionnaire
