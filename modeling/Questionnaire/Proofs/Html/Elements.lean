import Questionnaire.Proofs.Html.Trees

/-! # The elements of a tree

Every element, in the order of the opening tags, with what stands in it and around it. Empty texts
make no difference to it, so the elements of a tree are also those of its written form.
-/

namespace Questionnaire.Html

open Text

structure Tag where
  name : String
  attributes : List Attribute

namespace Tag

def attribute? (tag : Tag) (name : String) : Option String :=
  (tag.attributes.find? fun attr => attr.name = name).map Attribute.value

@[simp]
theorem attribute?_nil (tag name : String) : (mk tag []).attribute? name = none := rfl

@[simp]
theorem attribute?_cons (tag name : String) (attr : Attribute) (attributes : List Attribute) :
    (mk tag (attr :: attributes)).attribute? name =
      if attr.name = name then some attr.value else (mk tag attributes).attribute? name := by
  by_cases here : attr.name = name <;> simp [attribute?, here]

/-- Whether a class is among the words of the class attribute. -/
def hasClass (tag : Tag) (name : String) : Bool :=
  (splitAt ' ' ((tag.attribute? "class").getD "").toList).contains name.toList

end Tag

structure Occurrence where
  tag : Tag
  children : List Node
  /-- The elements that it stands in, from the innermost one outwards. -/
  around : List Tag

namespace Node

mutual
/-- The elements of a node, in the order of their opening tags. -/
def elements (around : List Tag) : Node → List Occurrence
  | element name attributes children =>
    ⟨⟨name, attributes⟩, children, around⟩ :: elementsAll (⟨name, attributes⟩ :: around) children
  | void name attributes => [⟨⟨name, attributes⟩, [], around⟩]
  | text _ => []

def elementsAll (around : List Tag) : List Node → List Occurrence
  | [] => []
  | node :: rest => node.elements around ++ elementsAll around rest
end

mutual
def chars : Node → List Char
  | element _ _ children => charsAll children
  | void _ _ => []
  | text content => content.toList

def charsAll : List Node → List Char
  | [] => []
  | node :: rest => node.chars ++ charsAll rest
end

theorem elementsAll_eq_flatMap (around : List Tag) (nodes : List Node) :
    elementsAll around nodes = nodes.flatMap (elements around) := by
  induction nodes with
  | nil => rfl
  | cons node rest ih => rw [elementsAll, List.flatMap_cons, ih]

theorem charsAll_eq_flatMap (nodes : List Node) : charsAll nodes = nodes.flatMap chars := by
  induction nodes with
  | nil => rfl
  | cons node rest ih => rw [charsAll, List.flatMap_cons, ih]

mutual
theorem chars_prune (node : Node) : node.prune.chars = node.chars := by
  cases node with
  | element name attributes children =>
    rw [prune, chars, chars, charsAll_eq_flatMap, flatMap_pruneAll chars rfl,
      flatMap_chars_prune children]
  | void name attributes => rfl
  | text content => rfl

theorem flatMap_chars_prune (nodes : List Node) :
    nodes.flatMap (fun node => node.prune.chars) = charsAll nodes := by
  cases nodes with
  | nil => rfl
  | cons node rest =>
    rw [List.flatMap_cons, chars_prune node, flatMap_chars_prune rest, charsAll]
end

end Node

namespace Occurrence

def prune (spot : Occurrence) : Occurrence :=
  { spot with children := Node.pruneAll spot.children }

def inner (spot : Occurrence) : List Occurrence :=
  Node.elementsAll (spot.tag :: spot.around) spot.children

def text (spot : Occurrence) : String := String.ofList (Node.charsAll spot.children)

theorem text_prune (spot : Occurrence) : spot.prune.text = spot.text := by
  rw [text, text, prune, Node.charsAll_eq_flatMap, Node.flatMap_pruneAll Node.chars rfl,
    Node.flatMap_chars_prune]

end Occurrence

namespace Node

mutual
/-- Without the empty texts of a tree its elements are the same, but for the empty texts in them. -/
theorem elements_prune (around : List Tag) (node : Node) :
    node.prune.elements around = (node.elements around).map Occurrence.prune := by
  cases node with
  | element name attributes children =>
    rw [prune, elements, elements, elementsAll_eq_flatMap, flatMap_pruneAll _ rfl,
      flatMap_elements_prune _ children, List.map_cons]
    rfl
  | void name attributes => rfl
  | text content => rfl

theorem flatMap_elements_prune (around : List Tag) (nodes : List Node) :
    nodes.flatMap (fun node => node.prune.elements around) =
      (elementsAll around nodes).map Occurrence.prune := by
  cases nodes with
  | nil => rfl
  | cons node rest =>
    rw [List.flatMap_cons, elements_prune around node, flatMap_elements_prune around rest,
      elementsAll, List.map_append]
end

end Node

theorem Occurrence.inner_prune (spot : Occurrence) :
    spot.prune.inner = spot.inner.map Occurrence.prune := by
  rw [inner, inner, prune, Node.elementsAll_eq_flatMap, Node.flatMap_pruneAll _ rfl,
    Node.flatMap_elements_prune]

section

variable {α β : Type} {read : Occurrence → Option β}

/-- What is read off the elements of a tree, in the order of their opening tags. -/
def Node.found (read : Occurrence → Option β) (node : Node) : List β :=
  (node.elements []).filterMap read

/-- What is read off the elements in the text of a tree, if it is the text of one. -/
def foundIn (read : Occurrence → Option β) (text : String) : Option (List β) :=
  (read? text).map (Node.found read)

/-- The text of a tree tells all that does not depend on empty texts. -/
theorem foundIn_render (same : ∀ spot : Occurrence, read spot.prune = read spot) {node : Node}
    (h : node.WellFormed) (occupied : node ≠ .text "") :
    foundIn read node.render = some (node.found read) := by
  rw [foundIn, read?_render h occupied, Option.map_some, Node.found, Node.elements_prune,
    List.filterMap_map]
  congr 2
  funext spot
  exact same spot

/-- What is read off a node and the drawings of some items behind it. -/
theorem Node.filterMap_elementsAll_cons_map {around : List Tag} {first : Node} {draw : α → Node}
    {lead : List β} {shown : α → List β}
    (head : (first.elements around).filterMap read = lead)
    (each : ∀ a, ((draw a).elements around).filterMap read = shown a) (items : List α) :
    (elementsAll around (first :: items.map draw)).filterMap read =
      lead ++ items.flatMap shown := by
  rw [elementsAll, List.filterMap_append, head, elementsAll_eq_flatMap, List.flatMap_map,
    List.filterMap_flatMap]
  simp only [each]

end

end Questionnaire.Html
