import Questionnaire.Document.Basic
import Questionnaire.Json.Basic

/-! Compiled documents as JSON. An element carries its kind beside its payload, a block its type. -/

namespace Questionnaire

def FieldHeader.toJson (header : FieldHeader) : Json := .object [
  ("id", .string header.id),
  ("code", .string header.code),
  ("name", .string header.name),
  ("required", .bool header.required),
  ("rhs", .string header.rhs),
  ("raw_text", .string header.source)]

def Choice.toJson (choice : Choice) : Json := .object [
  ("value", .string choice.value),
  ("label", .string choice.label),
  ("selected", .bool choice.selected),
  ("correct", .bool choice.correct)]

def Control.tag : Control → String
  | radio => "Radio"
  | checkbox => "Checkbox"

def ListEntry.toJson (entry : ListEntry) : Json := .object [
  ("control", .string entry.control.tag),
  ("item", entry.choice.toJson)]

def Element.payload : Element → List (String × Json)
  | textInput none => [("width", .null)]
  | textInput (some width) => [("width", .number width)]
  | textArea rows => [("rows", .number rows)]
  | radioSet choices | checkboxSet choices | inlineSelect choices | blockSelect choices =>
    [("items", .array (choices.map Choice.toJson))]
  | bareList entries => [("entries", .array (entries.map ListEntry.toJson))]
  | unmatched => []

def Element.toJson (element : Element) : Json :=
  .object (("kind", .string element.kind.tag) :: element.payload)

def CompiledField.toJson (field : CompiledField) : Json := .object [
  ("spec", field.header.toJson),
  ("element", field.element.toJson),
  ("markup", .string field.markup)]

def CompiledField.report (field : CompiledField) : Json := .object [
  ("spec", field.header.toJson),
  ("element", field.element.toJson)]

def Block.toJson : Block → Json
  | text content => .object [("type", .string "text"), ("content", .string content)]
  | field compiled => .object [("type", .string "field"), ("content", compiled.toJson)]

def Slide.toJson (slide : Slide) : Json := .object [
  ("title", .string slide.title),
  ("namespace", .string slide.scope),
  ("blocks", .array (slide.blocks.map Block.toJson))]

def Document.toJson (document : Document) : Json := .object [
  ("title", .string document.title),
  ("slides", .array (document.slides.map Slide.toJson))]

def Document.fieldReport (document : Document) : Json :=
  .array (document.fields.map CompiledField.report)

end Questionnaire
