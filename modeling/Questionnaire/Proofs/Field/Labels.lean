import Mathlib.Data.List.Nodup
import Mathlib.Data.Option.Basic
import Questionnaire.Proofs.Field.Controls
import Questionnaire.Proofs.Field.Ids

/-! # Labels and the controls they name

The ids in a field repeat only where the values of its choices do. As long as none does, its labels
and its controls name each other one by one.
-/

namespace Questionnaire

open Html Style

namespace Html

structure ShownLabel where
  /-- The id of what it is the label of. -/
  target : Option String
  text : String

def Occurrence.label? (spot : Occurrence) : Option ShownLabel :=
  if spot.tag.name = "label" then
    some { target := spot.tag.attribute? "for", text := spot.text }
  else none

theorem Occurrence.label?_prune (spot : Occurrence) : spot.prune.label? = spot.label? := by
  unfold label?
  rw [text_prune]
  rfl

/-- Every label with a target names one of the controls, and every control is named once. -/
structure Paired (labels : List ShownLabel) (controls : List ShownControl) : Prop where
  names_one : ∀ label ∈ labels, ∀ id, label.target = some id →
    (controls.map ShownControl.id).count (some id) = 1
  named_once : ∀ control ∈ controls, ∃ id, control.id = some id ∧
    (labels.map ShownLabel.target).count (some id) = 1

/-- Labels and controls with the same ids, none of them twice. -/
theorem Paired.of_same_ids {labels : List ShownLabel} {controls : List ShownControl}
    {ids : List String} (targets : labels.map ShownLabel.target = ids.map some)
    (named : controls.map ShownControl.id = ids.map some) (distinct : ids.Nodup) :
    Paired labels controls := by
  have distinct' : (ids.map some).Nodup := distinct.map (Option.some_injective String)
  constructor
  · intro label hm id target
    rw [named]
    apply List.count_eq_one_of_mem distinct'
    rw [← targets, ← target]
    exact List.mem_map_of_mem hm
  · intro control hm
    have member : control.id ∈ ids.map some := named ▸ List.mem_map_of_mem hm
    obtain ⟨id, -, given⟩ := List.mem_map.mp member
    refine ⟨id, given.symm, ?_⟩
    rw [targets, given]
    exact List.count_eq_one_of_mem distinct' member

end Html

namespace Element

/-- The choices that have a button of their own. -/
def buttons : Element → List Choice
  | radioSet choices | checkboxSet choices => choices
  | bareList entries => entries.map ListEntry.choice
  | textInput _ | textArea _ | inlineSelect _ | blockSelect _ | unmatched => []

theorem map_value_buttons (element : Element) :
    element.buttons.map Choice.value = element.buttonValues := by
  cases element with
  | bareList entries => exact List.map_map
  | _ => rfl

/-- The endings of a field's ids differ as far as the values of its choices do. -/
theorem nodup_idEndings_iff (element : Element) :
    element.idEndings.Nodup ↔ element.buttonValues.Nodup := by
  have values : (element.buttonValues.map ("_" ++ ·)).Nodup ↔ element.buttonValues.Nodup :=
    List.nodup_map_iff fun a b he => (String.append_right_inj "_").mp he
  have apart : ∀ value : String, "_" ++ value ≠ "" ∧ "_" ++ value ≠ "-input" := by
    intro value
    constructor
    · intro he
      simpa using congrArg String.toList he
    · intro he
      simpa using congrArg String.toList he
  rw [← values, idEndings]
  cases element.isControl <;> simp [apart]

def controlIds (header : FieldHeader) (element : Element) : List String :=
  element.idEndings.tail.map (header.id ++ ·)

theorem nodup_controlIds {header : FieldHeader} {element : Element}
    (distinct : element.buttonValues.Nodup) : (element.controlIds header).Nodup := by
  have endings : element.idEndings.tail.Nodup := (element.nodup_idEndings_iff.mpr distinct).tail
  exact endings.map fun a b he => (String.append_right_inj header.id).mp he

def shownLabels (header : FieldHeader) (element : Element) : List ShownLabel :=
  (if element.isControl then [⟨some header.controlId, header.name⟩] else []) ++
    element.buttons.map fun item => ⟨some (header.choiceId item.value), item.label⟩

theorem targets_shownLabels (header : FieldHeader) (element : Element) :
    (element.shownLabels header).map ShownLabel.target = (element.controlIds header).map some := by
  rw [shownLabels, controlIds, idEndings, ← map_value_buttons]
  cases element.isControl <;>
    simp [FieldHeader.controlId, FieldHeader.choiceId, String.append_assoc]

theorem ids_shownControls (header : FieldHeader) (placeholder : String) (element : Element) :
    (element.shownControls header placeholder).map ShownControl.id =
      (element.controlIds header).map some := by
  have button : ∀ (item : Choice) (control : Control),
      (item.shown header control).id = some (header.id ++ ("_" ++ item.value)) := by
    intro item control
    rw [Choice.id_shown, FieldHeader.choiceId, String.append_assoc]
  cases element with
  | radioSet choices =>
    simp [shownControls, controlIds, idEndings, isControl, buttonValues, button]
  | checkboxSet choices =>
    simp [shownControls, controlIds, idEndings, isControl, buttonValues, button]
  | bareList entries =>
    simp [shownControls, controlIds, idEndings, isControl, buttonValues, button]
  | _ => rfl

theorem buttons_of_isControl {element : Element} (h : element.isControl = true) :
    element.buttons = [] := by
  cases element with
  | radioSet choices => cases h
  | checkboxSet choices => cases h
  | bareList entries => cases h
  | _ => rfl

/-- The button of a choice comes at the place of the choice. -/
theorem shownControls_of_buttons (header : FieldHeader) (placeholder : String) {element : Element}
    {k : Nat} {item : Choice} (h : element.buttons[k]? = some item) :
    ∃ control : Control,
      (element.shownControls header placeholder)[k]? = some (item.shown header control) := by
  cases element with
  | radioSet choices =>
    rw [buttons] at h
    exact ⟨.radio, by rw [shownControls, List.getElem?_map, h]; rfl⟩
  | checkboxSet choices =>
    rw [buttons] at h
    exact ⟨.checkbox, by rw [shownControls, List.getElem?_map, h]; rfl⟩
  | bareList entries =>
    rw [buttons, List.getElem?_map] at h
    obtain ⟨entry, here, rfl⟩ := Option.map_eq_some_iff.mp h
    exact ⟨entry.control, by rw [shownControls, List.getElem?_map, here]; rfl⟩
  | _ => cases h

/-- The label with the id of a choice for its target is the label of this choice. -/
theorem text_of_target {header : FieldHeader} {element : Element} {item : Choice}
    {label : ShownLabel} (distinct : (element.buttons.map Choice.value).Nodup)
    (hm : label ∈ element.shownLabels header) (hi : item ∈ element.buttons)
    (target : label.target = some (header.choiceId item.value)) : label.text = item.label := by
  have no : ¬ element.isControl = true := by
    intro one
    rw [buttons_of_isControl one] at hi
    cases hi
  rw [shownLabels, if_neg no, List.nil_append] at hm
  obtain ⟨other, ho, rfl⟩ := List.mem_map.mp hm
  have value : other.value = item.value := by
    apply (String.append_right_inj (header.id ++ "_")).mp
    exact Option.some.inj target
  rw [List.inj_on_of_nodup_map distinct ho hi value]

end Element

namespace Markup

variable {header : FieldHeader} {around : List Tag}

theorem labels_labelFor (controlId name : String) :
    ((labelFor controlId name).elements around).filterMap Occurrence.label? =
      [⟨some controlId, name⟩] := by
  simp [labelFor, Node.elements, Node.elementsAll, Occurrence.label?, Occurrence.text, Node.charsAll,
    Node.chars]

theorem labels_choice (control : Control) (item : Choice) :
    ((choice header control item).elements around).filterMap Occurrence.label? =
      [⟨some (header.choiceId item.value), item.label⟩] := by
  simp [choice, Node.elements, Node.elementsAll, Occurrence.label?, Occurrence.text, Node.charsAll,
    Node.chars]

/-- What stands above a group is not written as a label. -/
theorem labels_groupLabel (name : String) :
    ((groupLabel name).elements around).filterMap Occurrence.label? = [] := by
  simp [groupLabel, Node.elements, Node.elementsAll, Occurrence.label?]

theorem labels_select (choices : List Choice) (options : FieldOptions) (ownLines : Bool) :
    (Node.elementsAll around (select header choices options ownLines)).filterMap Occurrence.label? =
      [⟨some header.controlId, header.name⟩] := by
  have silent : ∀ spot : Occurrence, spot.tag.name = "option" → spot.label? = none := by
    intro spot hn
    simp [Occurrence.label?, hn]
  rw [filterMap_select silent, labels_labelFor]
  simp [Occurrence.label?, selectBox]

/-- The labels in the tree of a field are those its element asks for. -/
theorem found_label_field (header : FieldHeader) (element : Element) (options : FieldOptions) :
    (field header element options).found Occurrence.label? = element.shownLabels header := by
  rw [field, Node.found, Node.elements, List.filterMap_cons_none (by simp [Occurrence.label?])]
  cases element with
  | textInput width =>
    rw [content, Node.elementsAll, List.filterMap_append, labels_labelFor]
    simp [Node.elementsAll, Node.elements, Occurrence.label?, Element.shownLabels, Element.isControl,
      Element.buttons]
  | textArea rows =>
    rw [content, Node.elementsAll, List.filterMap_append, labels_labelFor]
    simp [Node.elementsAll, Node.elements, Occurrence.label?, Element.shownLabels, Element.isControl,
      Element.buttons]
  | radioSet choices => exact filterMap_group (labels_groupLabel _) (labels_choice .radio) _
  | checkboxSet choices => exact filterMap_group (labels_groupLabel _) (labels_choice .checkbox) _
  | bareList entries =>
    rw [content, filterMap_group (labels_groupLabel _)
        fun entry : ListEntry => labels_choice entry.control entry.choice,
      Element.shownLabels, Element.buttons, List.map_map]
    rfl
  | inlineSelect choices => exact labels_select choices options false
  | blockSelect choices => exact labels_select choices options true
  | unmatched =>
    rw [content, Node.elementsAll, List.filterMap_append, labels_groupLabel]
    rfl

end Markup

/-- **Ids and labels of a field.** The ids of a field are all different just where the values of the
choices with a button of their own are, and then labels and controls name each other one by one, the
button of a choice being named by the label of this choice. -/
theorem ids_and_labels_of_field (header : FieldHeader) (element : Element)
    (options : FieldOptions) :
    ((idsIn (renderField header element options)).Nodup ↔
      (element.buttons.map Choice.value).Nodup) ∧
    ((element.buttons.map Choice.value).Nodup → ∃ labels controls,
      foundIn Occurrence.label? (renderField header element options) = some labels ∧
      foundIn Occurrence.control? (renderField header element options) = some controls ∧
      Paired labels controls ∧
      ∀ (k : Nat) (item : Choice), element.buttons[k]? = some item →
        ∃ control, controls[k]? = some control ∧ control.value = some item.value ∧
          ∀ label ∈ labels, label.target = control.id → label.text = item.label) := by
  constructor
  · rw [idsIn_renderField, Element.map_value_buttons, ← Element.nodup_idEndings_iff]
    exact List.nodup_map_iff fun a b he => (String.append_right_inj header.id).mp he
  · intro distinct
    have labels := foundIn_renderField Occurrence.label?_prune header element options
    have controls := foundIn_renderField Occurrence.control?_prune header element options
    rw [Markup.found_label_field] at labels
    rw [Markup.found_control_field] at controls
    refine ⟨_, _, labels, controls, ?_, ?_⟩
    · apply Paired.of_same_ids (element.targets_shownLabels header)
        (element.ids_shownControls header options.placeholder)
      rw [Element.map_value_buttons] at distinct
      exact Element.nodup_controlIds distinct
    · intro k item here
      obtain ⟨control, place⟩ :=
        Element.shownControls_of_buttons header options.placeholder here
      refine ⟨_, place, item.value_shown header control, ?_⟩
      intro label hm target
      rw [Choice.id_shown] at target
      exact Element.text_of_target distinct hm (List.mem_of_getElem? here) target

/-- Two choices of a bare list: the value of one looks like the ending of another id, the other has
neither value nor label. -/
theorem ids_and_labels_of_bare_list :
    let header : FieldHeader := ⟨"quiz_q", "q", "Q", false, "", ""⟩
    let element : Element :=
      .bareList [⟨.radio, ⟨"-input", "One", true, false⟩⟩, ⟨.checkbox, ⟨"", "", false, true⟩⟩]
    (element.buttons.map Choice.value).Nodup ∧
      (idsIn (renderField header element {})).Nodup ∧
      ∃ labels controls,
        foundIn Occurrence.label? (renderField header element {}) = some labels ∧
        foundIn Occurrence.control? (renderField header element {}) = some controls ∧
        Paired labels controls ∧
        ∃ control, controls[1]? = some control ∧ control.value = some "" ∧
          ∀ label ∈ labels, label.target = control.id → label.text = "" := by
  intro header element
  have distinct : (element.buttons.map Choice.value).Nodup := by decide
  obtain ⟨ids, names⟩ := ids_and_labels_of_field header element {}
  obtain ⟨labels, controls, hl, hc, paired, named⟩ := names distinct
  exact ⟨distinct, ids.mpr distinct, labels, controls, hl, hc, paired, named 1 _ rfl⟩

end Questionnaire
