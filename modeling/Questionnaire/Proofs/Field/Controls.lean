import Questionnaire.Proofs.Field.Markup
import Questionnaire.Proofs.Html.Elements

/-! # The controls of a field

A page is searched for the elements through which something is entered or chosen, and what these say
is compared with what the element of a field asks for.
-/

namespace Questionnaire

open Html Style

namespace Html

/-- The elements through which something is entered, chosen or sent. -/
def controlTags : List String := ["button", "input", "select", "textarea"]

structure ShownOption where
  value : Option String
  text : String
  disabled : Bool := false
  selected : Bool := false
  /-- Whether it has the class of right answers. -/
  correct : Bool := false

structure ShownControl where
  tag : String
  type : Option String := none
  id : Option String
  name : Option String
  value : Option String := none
  size : Option String := none
  rows : Option String := none
  checked : Bool := false
  /-- Whether it stands in a span with the class of right answers. -/
  correct : Bool := false
  options : List ShownOption := []

/-- Check boxes submit lists, all other controls submit a value under the code itself. -/
def ShownControl.Submits (control : ShownControl) (code : String) : Prop :=
  control.name = some (if control.type = some "checkbox" then code ++ "[]" else code)

namespace Occurrence

/-- Whether an attribute is given, be it an empty one. -/
def has (spot : Occurrence) (name : String) : Bool := (spot.tag.attribute? name).isSome

def option? (spot : Occurrence) : Option ShownOption :=
  if spot.tag.name = "option" then
    some {
      value := spot.tag.attribute? "value"
      text := spot.text
      disabled := spot.has "disabled"
      selected := spot.has "selected"
      correct := spot.tag.hasClass correctClass }
  else none

def control? (spot : Occurrence) : Option ShownControl :=
  if spot.tag.name ∈ controlTags then
    some {
      tag := spot.tag.name
      type := spot.tag.attribute? "type"
      id := spot.tag.attribute? "id"
      name := spot.tag.attribute? "name"
      value := spot.tag.attribute? "value"
      size := spot.tag.attribute? "size"
      rows := spot.tag.attribute? "rows"
      checked := spot.has "checked"
      correct := spot.around.any fun tag => tag.name = "span" && tag.hasClass correctClass
      options := spot.inner.filterMap option? }
  else none

theorem option?_prune (spot : Occurrence) : spot.prune.option? = spot.option? := by
  unfold option?
  rw [text_prune]
  rfl

theorem control?_prune (spot : Occurrence) : spot.prune.control? = spot.control? := by
  have options : spot.prune.inner.filterMap option? = spot.inner.filterMap option? := by
    rw [inner_prune, List.filterMap_map]
    congr 1
    funext inside
    exact option?_prune inside
  unfold control?
  rw [options]
  rfl

end Occurrence

end Html

def Choice.shown (header : FieldHeader) (choice : Choice) : Control → ShownControl
  | .radio => {
      tag := "input", type := some "radio", id := some (header.choiceId choice.value)
      name := some header.code, value := some choice.value
      checked := choice.selected, correct := choice.correct }
  | .checkbox => {
      tag := "input", type := some "checkbox", id := some (header.choiceId choice.value)
      name := some (header.code ++ "[]"), value := some choice.value
      checked := choice.selected, correct := choice.correct }

theorem Choice.id_shown (header : FieldHeader) (control : Control) (choice : Choice) :
    (choice.shown header control).id = some (header.choiceId choice.value) := by
  cases control <;> rfl

theorem Choice.value_shown (header : FieldHeader) (control : Control) (choice : Choice) :
    (choice.shown header control).value = some choice.value := by
  cases control <;> rfl

/-- The option of a choice. Only where options stand on lines of their own, a right answer shows. -/
def Choice.shownOption (ownLine : Bool) (choice : Choice) : ShownOption where
  value := some choice.value
  text := choice.label
  selected := choice.selected
  correct := ownLine && choice.correct

/-- A select. Its first option has no value and cannot be chosen; it is the selected one as long as
no choice is. -/
def shownSelect (header : FieldHeader) (placeholder : String) (ownLines : Bool)
    (choices : List Choice) : ShownControl where
  tag := "select"
  id := some header.controlId
  name := some header.code
  options :=
    { value := some "", text := placeholder, disabled := true
      selected := choices.all (!·.selected) } :: choices.map (Choice.shownOption ownLines)

def Element.shownControls (header : FieldHeader) (placeholder : String) :
    Element → List ShownControl
  | textInput width => [{
      tag := "input", type := some "text", id := some header.controlId, name := some header.code
      size := width.map toString }]
  | textArea rows => [{
      tag := "textarea", id := some header.controlId, name := some header.code
      rows := some (toString rows) }]
  | radioSet choices => choices.map (Choice.shown header · .radio)
  | checkboxSet choices => choices.map (Choice.shown header · .checkbox)
  | bareList entries => entries.map fun entry => entry.choice.shown header entry.control
  | inlineSelect choices => [shownSelect header placeholder false choices]
  | blockSelect choices => [shownSelect header placeholder true choices]
  | unmatched => []

namespace Markup

variable {header : FieldHeader} {around : List Tag}

/-- The span of a choice has the class of right answers just where the choice is one. -/
theorem hasClass_choice (correct : Bool) :
    (Tag.mk "span" [⟨"class", if correct then choiceClass ++ " " ++ correctClass
      else choiceClass⟩]).hasClass correctClass = correct := by
  cases correct <;> decide

theorem controls_choice (attributes : List Attribute) (control : Control) (item : Choice) :
    ((choice header control item).elements [⟨"div", attributes⟩]).filterMap Occurrence.control? =
      [item.shown header control] := by
  have marked := hasClass_choice item.correct
  cases control <;> cases hs : item.selected <;>
    simp [choice, Node.elements, Node.elementsAll, Occurrence.control?, controlTags, Occurrence.has,
      Occurrence.inner, Choice.shown, Control.inputType, Control.submissionName, marked, hs]

/-- Whether an option is marked as a right answer depends on its class alone. -/
theorem hasClass_option {tag : Tag} {correct : Bool}
    (given : tag.attribute? "class" = if correct then some correctClass else none) :
    tag.hasClass correctClass = correct := by
  rw [Tag.hasClass, given]
  cases correct <;> decide

/-- The placeholder has a text only if it is not an empty one, which makes no difference. -/
theorem options_placeholder (choices : List Choice) (label : String) :
    ((placeholder choices label).elements around).filterMap Occurrence.option? =
      [{ value := some "", text := label, disabled := true
         selected := choices.all (!·.selected) }] := by
  have selected : choices.all (!·.selected) = !choices.any Choice.selected :=
    List.all_eq_not_any_not.trans (by simp)
  have plain : ∀ tag : Tag, tag.attribute? "class" = none → tag.hasClass correctClass = false :=
    fun tag given => hasClass_option given
  rw [selected]
  by_cases empty : label = "" <;> cases hs : choices.any Choice.selected <;>
    simp [placeholder, Node.elements, Node.elementsAll, Occurrence.option?, Occurrence.has,
      Occurrence.text, Node.charsAll, Node.chars, plain, empty, hs]

theorem options_option (ownLine : Bool) (item : Choice) :
    ((option ownLine item).elements around).filterMap Occurrence.option? =
      [item.shownOption ownLine] := by
  cases hs : item.selected <;> cases hc : ownLine && item.correct <;>
    simp [option, Node.elements, Node.elementsAll, Occurrence.option?, Occurrence.has,
      Occurrence.text, Node.charsAll, Node.chars, Choice.shownOption, hasClass_option, hs, hc]

theorem options_select (header : FieldHeader) (choices : List Choice) (label : String)
    (ownLines : Bool) :
    (Node.elementsAll around (placeholder choices label :: choices.map (option ownLines))).filterMap
        Occurrence.option? =
      (shownSelect header label ownLines choices).options := by
  rw [Node.filterMap_elementsAll_cons_map (options_placeholder choices label)
    (options_option ownLines), ← List.map_eq_flatMap]
  rfl

/-- Options have nothing to read but what is read off options. -/
theorem filterMap_options {β : Type} {read : Occurrence → Option β}
    (silent : ∀ spot : Occurrence, spot.tag.name = "option" → read spot = none)
    (choices : List Choice) (label : String) (ownLines : Bool) :
    (Node.elementsAll around (placeholder choices label :: choices.map (option ownLines))).filterMap
      read = [] := by
  have first : ((placeholder choices label).elements around).filterMap read = [] := by
    by_cases empty : label = "" <;>
      simp [placeholder, Node.elements, Node.elementsAll, silent, empty]
  have others : ∀ item, ((option ownLines item).elements around).filterMap read = [] := by
    intro item
    simp [option, Node.elements, Node.elementsAll, silent]
  rw [Node.filterMap_elementsAll_cons_map first others]
  simp

def selectBox (header : FieldHeader) (around : List Tag) (choices : List Choice) (label : String)
    (ownLines : Bool) : Occurrence where
  tag := ⟨"select", [⟨"id", header.controlId⟩, ⟨"name", header.code⟩]⟩
  children := placeholder choices label :: choices.map (option ownLines)
  around := around

theorem filterMap_select {β : Type} {read : Occurrence → Option β}
    (silent : ∀ spot : Occurrence, spot.tag.name = "option" → read spot = none)
    (choices : List Choice) (options : FieldOptions) (ownLines : Bool) :
    (Node.elementsAll around (select header choices options ownLines)).filterMap read =
      ((labelFor header.controlId header.name).elements around).filterMap read ++
        (read (selectBox header around choices options.placeholder ownLines)).toList := by
  have inside : (selectBox header around choices options.placeholder ownLines).inner.filterMap
      read = [] := filterMap_options silent choices _ ownLines
  have whole : Node.elementsAll around (select header choices options ownLines) =
      (labelFor header.controlId header.name).elements around ++
        selectBox header around choices options.placeholder ownLines ::
          (selectBox header around choices options.placeholder ownLines).inner := by
    simp only [select, Node.elementsAll, Node.elements, List.append_nil]
    rfl
  rw [whole, List.filterMap_append, List.filterMap_cons, inside]
  cases read (selectBox header around choices options.placeholder ownLines) <;> rfl

theorem controls_labelFor (controlId name : String) :
    ((labelFor controlId name).elements around).filterMap Occurrence.control? = [] := by
  simp [labelFor, Node.elements, Node.elementsAll, Occurrence.control?, controlTags]

theorem controls_groupLabel (name : String) :
    ((groupLabel name).elements around).filterMap Occurrence.control? = [] := by
  simp [groupLabel, Node.elements, Node.elementsAll, Occurrence.control?, controlTags]

/-- In a group, something is read off its items alone. -/
theorem filterMap_group {α β : Type} {read : Occurrence → Option β} {draw : α → Node}
    {shown : α → β} {name : String}
    (silent : ((groupLabel name).elements around).filterMap read = [])
    (one : ∀ a, ((draw a).elements around).filterMap read = [shown a]) (items : List α) :
    (Node.elementsAll around (groupLabel name :: items.map draw)).filterMap read =
      items.map shown := by
  rw [Node.filterMap_elementsAll_cons_map silent one, List.map_eq_flatMap, List.nil_append]

theorem controls_select (attributes : List Attribute) (choices : List Choice)
    (options : FieldOptions) (ownLines : Bool) :
    (Node.elementsAll [⟨"div", attributes⟩] (select header choices options ownLines)).filterMap
        Occurrence.control? =
      [shownSelect header options.placeholder ownLines choices] := by
  have silent : ∀ spot : Occurrence, spot.tag.name = "option" → spot.control? = none := by
    intro spot hn
    simp [Occurrence.control?, controlTags, hn]
  have asked : (selectBox header [⟨"div", attributes⟩] choices options.placeholder
      ownLines).control? = some (shownSelect header options.placeholder ownLines choices) := by
    simp [Occurrence.control?, Occurrence.inner, Occurrence.has, selectBox, controlTags,
      shownSelect, options_select header]
  rw [filterMap_select silent, controls_labelFor, asked]
  rfl

/-- The controls in the tree of a field are those its element asks for. -/
theorem found_control_field (header : FieldHeader) (element : Element) (options : FieldOptions) :
    (field header element options).found Occurrence.control? =
      element.shownControls header options.placeholder := by
  rw [field, Node.found, Node.elements,
    List.filterMap_cons_none (by simp [Occurrence.control?, controlTags])]
  cases element with
  | textInput width =>
    rw [content, Node.elementsAll, List.filterMap_append, controls_labelFor]
    cases width <;>
      simp [Node.elementsAll, Node.elements, Occurrence.control?, controlTags, Occurrence.has,
        Occurrence.inner, Element.shownControls]
  | textArea rows =>
    rw [content, Node.elementsAll, List.filterMap_append, controls_labelFor]
    simp [Node.elementsAll, Node.elements, Occurrence.control?, controlTags, Occurrence.has,
      Occurrence.inner, Element.shownControls]
  | radioSet choices => exact filterMap_group (controls_groupLabel _) (controls_choice _ .radio) _
  | checkboxSet choices =>
    exact filterMap_group (controls_groupLabel _) (controls_choice _ .checkbox) _
  | bareList entries =>
    exact filterMap_group (controls_groupLabel _)
      (fun entry : ListEntry => controls_choice _ entry.control entry.choice) _
  | inlineSelect choices => exact controls_select _ choices options false
  | blockSelect choices => exact controls_select _ choices options true
  | unmatched =>
    rw [content, Node.elementsAll, List.filterMap_append, controls_groupLabel]
    rfl

end Markup

theorem Choice.submits_shown (header : FieldHeader) (control : Control) (choice : Choice) :
    (choice.shown header control).Submits header.code := by
  cases control <;> simp [shown, ShownControl.Submits]

theorem Element.submits_of_mem {header : FieldHeader} {placeholder : String} {element : Element}
    {control : ShownControl} (h : control ∈ element.shownControls header placeholder) :
    control.Submits header.code := by
  cases element with
  | textInput width =>
    rw [List.mem_singleton.mp h]
    simp [ShownControl.Submits]
  | textArea rows =>
    rw [List.mem_singleton.mp h]
    simp [ShownControl.Submits]
  | radioSet choices =>
    obtain ⟨choice, -, rfl⟩ := List.mem_map.mp h
    exact choice.submits_shown header .radio
  | checkboxSet choices =>
    obtain ⟨choice, -, rfl⟩ := List.mem_map.mp h
    exact choice.submits_shown header .checkbox
  | bareList entries =>
    obtain ⟨entry, -, rfl⟩ := List.mem_map.mp h
    exact entry.choice.submits_shown header entry.control
  | inlineSelect choices =>
    rw [List.mem_singleton.mp h]
    simp [ShownControl.Submits, shownSelect]
  | blockSelect choices =>
    rw [List.mem_singleton.mp h]
    simp [ShownControl.Submits, shownSelect]
  | unmatched => cases h

/-- What is read off the tree of a field is read off its text. -/
theorem foundIn_renderField {β : Type} {read : Occurrence → Option β}
    (same : ∀ spot : Occurrence, read spot.prune = read spot) (header : FieldHeader)
    (element : Element) (options : FieldOptions) :
    foundIn read (renderField header element options) =
      some ((Markup.field header element options).found read) :=
  foundIn_render same (Markup.field_wellFormed header element options) nofun

/-- **The controls of a field are those of its element.** In the text of a field stand the controls
that its element asks for, in this order and no others, each under the name of the field. -/
theorem controls_of_renderField (header : FieldHeader) (element : Element)
    (options : FieldOptions) :
    ∃ controls, foundIn Occurrence.control? (renderField header element options) = some controls ∧
      controls = element.shownControls header options.placeholder ∧
      ∀ control ∈ controls, control.Submits header.code := by
  refine ⟨element.shownControls header options.placeholder, ?_, rfl, ?_⟩
  · rw [foundIn_renderField Occurrence.control?_prune, Markup.found_control_field]
  · intro control hm
    exact Element.submits_of_mem hm

end Questionnaire
