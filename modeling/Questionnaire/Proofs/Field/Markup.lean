import Questionnaire.Field.Markup
import Questionnaire.Proofs.Html.Trees

/-! # The markup of a field reads back

Whatever the names, values and labels of a field are, its tree is well-formed, since only the tags
and the names of attributes matter for that, and none of these comes from an author.
-/

namespace Questionnaire

open Html

namespace Markup

/-- Nodes that an element may hold beside each other. -/
def Sound (nodes : List Node) : Prop := ∀ node ∈ nodes, node.WellFormed ∧ ¬ node.IsText

theorem Sound.nil : Sound [] := by intro node hm; cases hm

theorem Sound.cons {node : Node} {nodes : List Node} (hw : node.WellFormed) (ht : ¬ node.IsText)
    (h : Sound nodes) : Sound (node :: nodes) := by
  intro other hm
  rcases List.mem_cons.mp hm with rfl | hm
  · exact ⟨hw, ht⟩
  · exact h other hm

theorem Sound.map {α : Type} {draw : α → Node} (hw : ∀ a, (draw a).WellFormed)
    (ht : ∀ a, ¬ (draw a).IsText) (items : List α) : Sound (items.map draw) := by
  intro node hm
  obtain ⟨a, _, rfl⟩ := List.mem_map.mp hm
  exact ⟨hw a, ht a⟩

/-- An element around sound nodes. -/
theorem wellFormed_element {tag : String} {attributes : List Attribute} {children : List Node}
    (hr : (Token.opening tag attributes).Readable) (hv : tag ∉ voidTags) (hc : Sound children) :
    (Node.element tag attributes children).WellFormed := by
  refine ⟨hr, hv, ?_, ?_⟩
  · apply List.Pairwise.isChain
    apply List.pairwise_of_forall_mem_list
    intro before hb after _ ht
    exact absurd ht (hc before hb).2
  · rw [Node.allWellFormed_iff]
    intro node hm
    exact (hc node hm).1

/-- An element around a text. -/
theorem wellFormed_around_text {tag : String} {attributes : List Attribute} (content : String)
    (hr : (Token.opening tag attributes).Readable) (hv : tag ∉ voidTags) :
    (Node.element tag attributes [.text content]).WellFormed :=
  ⟨hr, hv, .singleton _, trivial, trivial⟩

theorem labelFor_wellFormed (controlId name : String) : (labelFor controlId name).WellFormed :=
  wellFormed_around_text name
    (readable_opening ["class", "for"] (.refl _) (by decide)) (by decide)

theorem groupLabel_wellFormed (name : String) : (groupLabel name).WellFormed :=
  wellFormed_around_text name
    (readable_opening ["class"] (.refl _) (by decide)) (by decide)

theorem choice_wellFormed (header : FieldHeader) (control : Control) (item : Choice) :
    (choice header control item).WellFormed := by
  have input : (Token.opening "input" ([⟨"type", control.inputType⟩,
      ⟨"id", header.choiceId item.value⟩, ⟨"name", control.submissionName header.code⟩,
      ⟨"value", item.value⟩] ++ if item.selected then [⟨"checked", ""⟩] else [])).Readable := by
    apply readable_opening ["type", "id", "name", "value", "checked"] _ (by decide)
    split <;> simp
  have label : (Node.element "label" [⟨"for", header.choiceId item.value⟩]
      [.text item.label]).WellFormed :=
    wellFormed_around_text item.label
      (readable_opening ["for"] (.refl _) (by decide)) (by decide)
  apply wellFormed_element (readable_opening ["class"] (.refl _) (by decide)) (by decide)
  exact .cons ⟨input, by decide⟩ id (.cons label id .nil)

theorem placeholder_wellFormed (choices : List Choice) (label : String) :
    (placeholder choices label).WellFormed := by
  have opening : (Token.opening "option" ([⟨"value", ""⟩, ⟨"disabled", ""⟩] ++
      if choices.any Choice.selected then [] else [⟨"selected", ""⟩])).Readable := by
    apply readable_opening ["value", "disabled", "selected"] _ (by decide)
    split <;> simp
  unfold placeholder
  by_cases hl : label.isEmpty
  · rw [if_pos hl]; exact wellFormed_element opening (by decide) .nil
  · rw [if_neg hl]; exact wellFormed_around_text label opening (by decide)

theorem option_wellFormed (marksCorrect : Bool) (item : Choice) :
    (option marksCorrect item).WellFormed := by
  apply wellFormed_around_text item.label _ (by decide)
  apply readable_opening ["value", "selected", "class"] _ (by decide)
  split <;> split <;> simp

theorem select_sound (header : FieldHeader) (choices : List Choice) (options : FieldOptions)
    (marksCorrect : Bool) : Sound (select header choices options marksCorrect) := by
  have items : Sound (placeholder choices options.placeholder ::
      choices.map (option marksCorrect)) :=
    .cons (placeholder_wellFormed choices options.placeholder) id
      (.map (option_wellFormed marksCorrect) (fun _ => id) choices)
  have box : (Node.element "select" [⟨"id", header.controlId⟩, ⟨"name", header.code⟩]
      (placeholder choices options.placeholder :: choices.map (option marksCorrect))).WellFormed :=
    wellFormed_element (readable_opening ["id", "name"] (.refl _) (by decide))
      (by decide) items
  exact .cons (labelFor_wellFormed _ _) id (.cons box id .nil)

/-- A group label before the controls of any items. -/
theorem group_sound {α : Type} (name : String) {draw : α → Node} (hw : ∀ a, (draw a).WellFormed)
    (ht : ∀ a, ¬ (draw a).IsText) (items : List α) :
    Sound (groupLabel name :: items.map draw) :=
  .cons (groupLabel_wellFormed name) id (.map hw ht items)

theorem content_sound (header : FieldHeader) (element : Element) (options : FieldOptions) :
    Sound (content header element options) := by
  cases element with
  | textInput width =>
    have input : (Token.opening "input" ([⟨"type", "text"⟩, ⟨"id", header.controlId⟩,
        ⟨"name", header.code⟩] ++ (width.map fun n => ⟨"size", toString n⟩).toList)).Readable := by
      apply readable_opening ["type", "id", "name", "size"] _ (by decide)
      cases width <;> simp
    exact .cons (labelFor_wellFormed _ _) id (.cons ⟨input, by decide⟩ id .nil)
  | textArea rows =>
    have area : (Node.element "textarea" [⟨"id", header.controlId⟩, ⟨"name", header.code⟩,
        ⟨"rows", toString rows⟩] []).WellFormed :=
      wellFormed_element
        (readable_opening ["id", "name", "rows"] (.refl _) (by decide)) (by decide) .nil
    exact .cons (labelFor_wellFormed _ _) id (.cons area id .nil)
  | radioSet choices => exact group_sound _ (choice_wellFormed header .radio) (fun _ => id) choices
  | checkboxSet choices =>
    exact group_sound _ (choice_wellFormed header .checkbox) (fun _ => id) choices
  | inlineSelect choices => exact select_sound header choices options false
  | blockSelect choices => exact select_sound header choices options true
  | bareList entries =>
    exact group_sound _ (fun entry => choice_wellFormed header entry.control entry.choice)
      (fun _ => id) entries
  | unmatched => exact .cons (groupLabel_wellFormed _) id .nil

theorem field_wellFormed (header : FieldHeader) (element : Element) (options : FieldOptions) :
    (field header element options).WellFormed :=
  wellFormed_element (readable_opening ["id", "class", "data-code"] (.refl _) (by decide))
    (by decide) (content_sound header element options)

end Markup

/-- The text of a field is the HTML of the tree that was drawn for it, and of no other: reading it
gives every tag, attribute and text back, whatever characters a header, the choices or the
placeholder consist of. -/
theorem read?_renderField (header : FieldHeader) (element : Element) (options : FieldOptions) :
    read? (renderField header element options) =
      some (Markup.field header element options).prune := by
  apply read?_render (Markup.field_wellFormed header element options)
  intro he
  cases he

end Questionnaire
