import Questionnaire.Proofs.Field.Markup

/-! # The ids in the markup of a field

Every id that a field puts into a page is the id of the field with an ending: none for the container,
a fixed one for its one control, and the value of a choice for the button of that choice.
-/

namespace Questionnaire

open Html

namespace Html

def idValues (attributes : List Attribute) : List String :=
  (attributes.filter fun attr => attr.name = "id").map Attribute.value

namespace Node

mutual
/-- The ids in a tree, in the order of its tags. -/
def ids : Node → List String
  | element _ attributes children => idValues attributes ++ idsAll children
  | void _ attributes => idValues attributes
  | text _ => []

def idsAll : List Node → List String
  | [] => []
  | node :: rest => node.ids ++ idsAll rest
end

theorem idsAll_eq_flatMap (nodes : List Node) : idsAll nodes = nodes.flatMap ids := by
  induction nodes with
  | nil => rfl
  | cons node rest ih => rw [idsAll, List.flatMap_cons, ih]

mutual
theorem ids_prune (node : Node) : node.prune.ids = node.ids := by
  cases node with
  | element tag attributes children =>
    rw [prune, ids, ids, idsAll_eq_flatMap, flatMap_pruneAll ids rfl, flatMap_ids_prune children]
  | void tag attributes => rfl
  | text content => rfl

theorem flatMap_ids_prune (nodes : List Node) :
    nodes.flatMap (fun node => node.prune.ids) = idsAll nodes := by
  cases nodes with
  | nil => rfl
  | cons node rest =>
    rw [List.flatMap_cons, ids_prune node, flatMap_ids_prune rest, idsAll]
end

end Node

/-- The ids that are found in the text of a tree. -/
def idsIn (text : String) : List String := (read? text).elim [] Node.ids

end Html

namespace Element

/-- The values of the choices that have a button of their own. -/
def buttonValues : Element → List String
  | radioSet choices | checkboxSet choices => choices.map Choice.value
  | bareList entries => entries.map fun entry => entry.choice.value
  | textInput _ | textArea _ | inlineSelect _ | blockSelect _ | unmatched => []

def isControl : Element → Bool
  | textInput _ | textArea _ | inlineSelect _ | blockSelect _ => true
  | radioSet _ | checkboxSet _ | bareList _ | unmatched => false

/-- What the ids of a field have behind the id of the field itself. -/
def idEndings (element : Element) : List String :=
  "" :: (if element.isControl then ["-input"] else []) ++ element.buttonValues.map ("_" ++ ·)

end Element

namespace Markup

theorem ids_labelFor (controlId name : String) : (labelFor controlId name).ids = [] := rfl

theorem ids_groupLabel (name : String) : (groupLabel name).ids = [] := rfl

theorem ids_choice (header : FieldHeader) (control : Control) (item : Choice) :
    (choice header control item).ids = [header.choiceId item.value] := by
  cases hs : item.selected <;> simp [choice, Node.ids, Node.idsAll, idValues, hs]

theorem ids_placeholder (choices : List Choice) (label : String) :
    (placeholder choices label).ids = [] := by
  unfold placeholder
  split <;> split <;> simp [Node.ids, Node.idsAll, idValues]

theorem ids_option (marksCorrect : Bool) (item : Choice) : (option marksCorrect item).ids = [] := by
  unfold option
  split <;> split <;> simp [Node.ids, Node.idsAll, idValues]

theorem idsAll_select (header : FieldHeader) (choices : List Choice) (options : FieldOptions)
    (marksCorrect : Bool) :
    Node.idsAll (select header choices options marksCorrect) = [header.controlId] := by
  have items : Node.idsAll (choices.map (option marksCorrect)) = [] := by
    rw [Node.idsAll_eq_flatMap, List.flatMap_map]
    simp [ids_option]
  simp [select, Node.idsAll, Node.ids, idValues, ids_labelFor, ids_placeholder, items]

theorem idsAll_group {α : Type} (name : String) {draw : α → Node} {id : α → String}
    (h : ∀ a, (draw a).ids = [id a]) (items : List α) :
    Node.idsAll (groupLabel name :: items.map draw) = items.map id := by
  rw [Node.idsAll, ids_groupLabel, Node.idsAll_eq_flatMap, List.flatMap_map]
  simp only [h, List.nil_append]
  rw [List.map_eq_flatMap]

/-- The ids in a field are the id of the field with each of its endings. -/
theorem ids_field (header : FieldHeader) (element : Element) (options : FieldOptions) :
    (field header element options).ids = element.idEndings.map (header.id ++ ·) := by
  have inside : Node.idsAll (content header element options) =
      (if element.isControl then [header.controlId] else []) ++
        element.buttonValues.map header.choiceId := by
    cases element with
    | textInput width =>
      simp [content, Node.idsAll, Node.ids, ids_labelFor, idValues, Element.isControl,
        Element.buttonValues]
    | textArea rows => rfl
    | radioSet choices =>
      rw [content, idsAll_group _ (ids_choice header .radio)]
      simp [Element.isControl, Element.buttonValues]
    | checkboxSet choices =>
      rw [content, idsAll_group _ (ids_choice header .checkbox)]
      simp [Element.isControl, Element.buttonValues]
    | inlineSelect choices => exact idsAll_select header choices options false
    | blockSelect choices => exact idsAll_select header choices options true
    | bareList entries =>
      rw [content, idsAll_group _ fun entry : ListEntry =>
        ids_choice header entry.control entry.choice]
      simp [Element.isControl, Element.buttonValues]
    | unmatched => rfl
  have container : (field header element options).ids =
      header.id :: Node.idsAll (content header element options) := by
    simp [field, Node.ids, idValues]
  rw [container, inside, Element.idEndings]
  cases element.isControl <;>
    simp [FieldHeader.controlId, FieldHeader.choiceId, String.append_assoc, Function.comp_def]

end Markup

/-- The ids in the text of a field are those its tree was drawn with, whatever characters they
consist of. -/
theorem idsIn_renderField (header : FieldHeader) (element : Element) (options : FieldOptions) :
    idsIn (renderField header element options) = element.idEndings.map (header.id ++ ·) := by
  have read : read? (renderField header element options) =
      some (Markup.field header element options).prune := by
    apply read?_render (Markup.field_wellFormed header element options)
    intro he
    cases he
  rw [idsIn, read, Option.elim_some, Node.ids_prune, Markup.ids_field]

end Questionnaire
