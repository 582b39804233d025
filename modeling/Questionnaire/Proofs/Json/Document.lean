import Questionnaire.Format.Builtin
import Questionnaire.Proofs.Json.Values

/-! # Documents read back from their dumps

A decoder for the JSON of documents. It finds members by their names, in whatever order they stand,
and the kind of an element and the type of a block say what their payload is. Every document is
decoded from its own dump, so different documents have different dumps.
-/

namespace Questionnaire

namespace Json

def member? (json : Json) (name : String) : Option Json :=
  match json with
  | object members => members.lookup name
  | _ => none

@[simp] theorem member?_cons (name other : String) (value : Json) (rest : List (String × Json)) :
    (object ((other, value) :: rest)).member? name =
      if name = other then some value else (object rest).member? name := by
  by_cases same : name = other
  · simp [member?, same]
  · have differs : (name == other) = false := beq_eq_false_iff_ne.mpr same
    simp [member?, List.lookup_cons, differs, same]

@[simp] def string? : Json → Option String
  | string s => some s
  | _ => none

@[simp] def bool? : Json → Option Bool
  | bool b => some b
  | _ => none

@[simp] def number? : Json → Option Nat
  | number n => some n
  | _ => none

@[simp] def numberOrNull? : Json → Option (Option Nat)
  | null => some none
  | json => json.number?.map some

def list? {α : Type} (decode : Json → Option α) : Json → Option (List α)
  | array items => items.mapM decode
  | _ => none

theorem mapM_map_eq_some {α β γ : Type} {decode : β → Option γ} {encode : α → β} {f : α → γ}
    (decoded : ∀ a, decode (encode a) = some (f a)) (all : List α) :
    (all.map encode).mapM decode = some (all.map f) := by
  induction all with
  | nil => rfl
  | cons a all ih => rw [List.map_cons, List.mapM_cons, decoded, ih]; rfl

/-- A list is decoded from the items that its members are decoded from. -/
theorem list?_map {α : Type} {decode : Json → Option α} {encode : α → Json}
    (decoded : ∀ a, decode (encode a) = some a) (all : List α) :
    list? decode (.array (all.map encode)) = some all := by
  have each := mapM_map_eq_some decoded all
  rwa [List.map_id'] at each

end Json

/-! ## Fields -/

def FieldHeader.ofJson? (json : Json) : Option FieldHeader := do
  let id ← (← json.member? "id").string?
  let code ← (← json.member? "code").string?
  let name ← (← json.member? "name").string?
  let required ← (← json.member? "required").bool?
  let rhs ← (← json.member? "rhs").string?
  let source ← (← json.member? "raw_text").string?
  return ⟨id, code, name, required, rhs, source⟩

theorem FieldHeader.ofJson?_toJson (header : FieldHeader) : ofJson? header.toJson = some header := by
  simp [ofJson?, toJson]

def Choice.ofJson? (json : Json) : Option Choice := do
  let value ← (← json.member? "value").string?
  let label ← (← json.member? "label").string?
  let selected ← (← json.member? "selected").bool?
  let correct ← (← json.member? "correct").bool?
  return ⟨value, label, selected, correct⟩

theorem Choice.ofJson?_toJson (choice : Choice) : ofJson? choice.toJson = some choice := by
  simp [ofJson?, toJson]

def Control.ofTag? (tag : String) : Option Control :=
  [radio, checkbox].find? fun control => control.tag = tag

theorem Control.ofTag?_tag (control : Control) : ofTag? control.tag = some control := by
  cases control <;> decide

def ListEntry.ofJson? (json : Json) : Option ListEntry := do
  let control ← Control.ofTag? (← (← json.member? "control").string?)
  let choice ← Choice.ofJson? (← json.member? "item")
  return ⟨control, choice⟩

theorem ListEntry.ofJson?_toJson (entry : ListEntry) : ofJson? entry.toJson = some entry := by
  simp [ofJson?, toJson, Control.ofTag?_tag, Choice.ofJson?_toJson]

/-! ## Elements -/

def ElementKind.ofTag? (tag : String) : Option ElementKind :=
  [textInput, textArea, radioSet, checkboxSet, inlineSelect, blockSelect, bareList, unmatched].find?
    fun kind => kind.tag = tag

theorem ElementKind.ofTag?_tag (kind : ElementKind) : ofTag? kind.tag = some kind := by
  cases kind <;> decide

namespace Element

/-- The element of a kind with the payload that stands among the members of an object. -/
def ofPayload? (json : Json) : ElementKind → Option Element
  | .textInput => do return .textInput (← (← json.member? "width").numberOrNull?)
  | .textArea => do return .textArea (← (← json.member? "rows").number?)
  | .radioSet => do return .radioSet (← (← json.member? "items").list? Choice.ofJson?)
  | .checkboxSet => do return .checkboxSet (← (← json.member? "items").list? Choice.ofJson?)
  | .inlineSelect => do return .inlineSelect (← (← json.member? "items").list? Choice.ofJson?)
  | .blockSelect => do return .blockSelect (← (← json.member? "items").list? Choice.ofJson?)
  | .bareList => do return .bareList (← (← json.member? "entries").list? ListEntry.ofJson?)
  | .unmatched => some .unmatched

def ofJson? (json : Json) : Option Element := do
  let kind ← ElementKind.ofTag? (← (← json.member? "kind").string?)
  ofPayload? json kind

/-- The kind says what the payload is. -/
theorem ofPayload?_toJson (element : Element) :
    ofPayload? element.toJson element.kind = some element := by
  have choices := Json.list?_map Choice.ofJson?_toJson
  have entries := Json.list?_map ListEntry.ofJson?_toJson
  cases element with
  | textInput width =>
    cases width <;> simp [ofPayload?, kind, toJson, payload]
  | textArea rows => simp [ofPayload?, kind, toJson, payload]
  | radioSet all => simp [ofPayload?, kind, toJson, payload, choices]
  | checkboxSet all => simp [ofPayload?, kind, toJson, payload, choices]
  | inlineSelect all => simp [ofPayload?, kind, toJson, payload, choices]
  | blockSelect all => simp [ofPayload?, kind, toJson, payload, choices]
  | bareList all => simp [ofPayload?, kind, toJson, payload, entries]
  | unmatched => rfl

theorem ofJson?_toJson (element : Element) : ofJson? element.toJson = some element := by
  have tag : element.toJson.member? "kind" = some (.string element.kind.tag) := by
    simp [toJson]
  rw [ofJson?, tag]
  simp [ElementKind.ofTag?_tag, ofPayload?_toJson]

end Element

/-! ## Documents -/

def CompiledField.ofJson? (json : Json) : Option CompiledField := do
  let header ← FieldHeader.ofJson? (← json.member? "spec")
  let element ← Element.ofJson? (← json.member? "element")
  let markup ← (← json.member? "markup").string?
  return ⟨header, element, markup⟩

theorem CompiledField.ofJson?_toJson (field : CompiledField) :
    ofJson? field.toJson = some field := by
  simp [ofJson?, toJson, FieldHeader.ofJson?_toJson, Element.ofJson?_toJson]

def Block.ofJson? (json : Json) : Option Block := do
  let type ← (← json.member? "type").string?
  let content ← json.member? "content"
  if type = "text" then return .text (← content.string?)
  else if type = "field" then return .field (← CompiledField.ofJson? content)
  else none

theorem Block.ofJson?_toJson (block : Block) : ofJson? block.toJson = some block := by
  cases block with
  | text content => simp [ofJson?, toJson]
  | field compiled =>
    simp [ofJson?, toJson, CompiledField.ofJson?_toJson]

def Slide.ofJson? (json : Json) : Option Slide := do
  let title ← (← json.member? "title").string?
  let scope ← (← json.member? "namespace").string?
  let blocks ← (← json.member? "blocks").list? Block.ofJson?
  return ⟨title, scope, blocks⟩

theorem Slide.ofJson?_toJson (slide : Slide) : ofJson? slide.toJson = some slide := by
  have blocks := Json.list?_map Block.ofJson?_toJson
  simp [ofJson?, toJson, blocks]

namespace Document

def ofJson? (json : Json) : Option Document := do
  let title ← (← json.member? "title").string?
  let slides ← (← json.member? "slides").list? Slide.ofJson?
  return ⟨title, slides⟩

theorem ofJson?_toJson (document : Document) : ofJson? document.toJson = some document := by
  have slides := Json.list?_map Slide.ofJson?_toJson
  simp [ofJson?, toJson, slides]

/-- The document that a text is the dump of. -/
def ofDump? (text : String) : Option Document := do ofJson? (← Json.read? text)

end Document

/-- **Dumps lose nothing.** Every document is written, as one JSON value, and read back from what is
written. So different documents are written differently. -/
theorem dump_lossless :
    (∀ document, ∃ text, Format.json.write document = .ok text ∧
      Json.read? text = some document.toJson ∧ Document.ofDump? text = some document) ∧
    Function.Injective Format.json.write := by
  have lossless : ∀ document : Document, ∃ text, Format.json.write document = .ok text ∧
      Json.read? text = some document.toJson ∧ Document.ofDump? text = some document := by
    intro document
    have read := Json.read?_pretty document.toJson
    refine ⟨document.toJson.pretty, rfl, read, ?_⟩
    rw [Document.ofDump?, read]
    exact document.ofJson?_toJson
  refine ⟨lossless, ?_⟩
  intro one other same
  obtain ⟨text, hw, -, readOne⟩ := lossless one
  obtain ⟨again, ha, -, readOther⟩ := lossless other
  rw [same, ha] at hw
  rw [← Except.ok.inj hw, readOther] at readOne
  exact (Option.some.inj readOne).symm

end Questionnaire
