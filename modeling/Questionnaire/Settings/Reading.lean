import Questionnaire.Settings.Basic
import Questionnaire.Settings.Fault

/-! Settings from a tree of configuration values. Conversions are lenient: sizes may be written as
text or truth values, and texts as numbers or truth values. -/

namespace Questionnaire

open Text

structure Located where
  value : ConfigValue
  path : KeyPath

namespace Located

def wrongType (located : Located) (expected : String) : SettingsFault :=
  .wrongType located.value.found expected located.path located.value.origin?

/-- The number of 64 bits that a text spells: a truth value counts as one or zero. -/
def spelledNumber? (text : String) : Option Nat :=
  let lowered := ConfigValue.foldKey text
  if ["true", "on", "yes"].contains lowered then some 1
  else if ["false", "off", "no"].contains lowered then some 0
  else (readNumeral maxWord64 text.toList).toOption

/-- A size of 64 bits. Fractions are rounded to what is in range. -/
def wideSize (located : Located) : Except SettingsFault Nat :=
  match located.value with
  | .boolean b _ => .ok (if b then 1 else 0)
  | .integer n _ =>
    if n < 0 then .error (located.wrongType "an unsigned 64 bit or less integer") else .ok n.toNat
  | .double x _ => .ok (x.toNat maxWord64)
  | .string s _ =>
    match spelledNumber? s with
    | some n => .ok n
    | none => .error (located.wrongType "an integer")
  | .unit | .array .. | .table .. => .error (located.wrongType "an integer")

/-- A size of 32 bits. One that is too large is reported as a number, without the file. -/
def size (located : Located) : Except SettingsFault Nat := do
  let n ← located.wideSize
  if n ≤ maxWord32 then return n
  else .error (.wrongType ("64-bit unsigned integer \x60" ++ toString n ++ "\x60")
    "an unsigned 32 bit integer" located.path none)

def text (located : Located) : Except SettingsFault String :=
  match located.value with
  | .string s _ => .ok s
  | .integer n _ => .ok (toString n)
  | .boolean b _ => .ok (toString b)
  | .double x _ => .ok x.text
  | .unit | .array .. | .table .. => .error (located.wrongType "a string")

def text? (located : Option Located) : Except SettingsFault (Option String) :=
  match located with
  | none => .ok none
  | some ⟨.unit, _⟩ => .ok none
  | some located => located.text.map some

/-- A policy: its name in any case, or a table with that name as its one key. -/
def policy (located : Located) : Except SettingsFault Policy :=
  let named (name : String) : Except SettingsFault Policy :=
    match Policy.ofName? name with
    | some policy => .ok policy
    | none => .error (.misfit ("enum PolicyConfig does not have variant constructor " ++ name))
  match located.value with
  | .string s _ => named s
  | .table [(key, _)] _ => named key
  | _ => .error (.misfit ("value of enum PolicyConfig should be represented by either string or " ++
      "table with exactly one key"))

end Located

/-- A section: the name that errors give it, and its settings by key, in order. -/
structure SectionShape where
  key : String
  name : String
  settings : List String

/-- The settings that a section holds. A section is a table or lists its settings in order. -/
def SectionShape.find (shape : SectionShape) (value : ConfigValue) :
    Except SettingsFault (List (String × Located)) :=
  match value with
  | .table members _ =>
    .ok (shape.settings.filterMap fun key =>
      (members.lookup key).map fun value => (key, ⟨value, [.member shape.key, .member key]⟩))
  | .array items _ =>
    .ok ((shape.settings.zip items).mapIdx fun index (key, value) =>
      (key, ⟨value, [.member shape.key, .item index]⟩))
  | _ =>
    .error (.misfit
      ("invalid type: " ++ value.foundAsSection ++ ", expected struct " ++ shape.name))

def SectionShape.need (shape : SectionShape) (value : ConfigValue)
    (found : List (String × Located)) (key : String) : Except SettingsFault Located :=
  match found.lookup key with
  | some located => .ok located
  | none =>
    .error (.misfit (match value with
      | .array items _ =>
        "invalid length " ++ toString items.length ++ ", expected struct " ++ shape.name ++
          " with " ++ toString shape.settings.length ++
          (if shape.settings.length = 1 then " element" else " elements")
      | _ => "missing field \x60" ++ key ++ "\x60"))

def renderSection : SectionShape :=
  ⟨"render", "RenderConfig", ["default_textarea_rows", "placeholder_label"]⟩

def formSection : SectionShape := ⟨"form", "FormConfig", ["method", "action", "submit_label"]⟩

def documentSection : SectionShape := ⟨"document", "DocumentConfig", ["policy", "title"]⟩

def htmlSection : SectionShape := ⟨"html", "HtmlConfig", ["custom_css"]⟩

def SectionShape.of (shape : SectionShape) (members : ConfigMembers) :
    Except SettingsFault ConfigValue :=
  match members.lookup shape.key with
  | some value => .ok value
  | none => .error (.misfit ("missing field \x60" ++ shape.key ++ "\x60"))

def Settings.ofMembers (members : ConfigMembers) : Except SettingsFault Settings := do
  let render ← renderSection.of members
  let renderFound ← renderSection.find render
  let rows ← (← renderSection.need render renderFound "default_textarea_rows").size
  let placeholder ← (← renderSection.need render renderFound "placeholder_label").text
  let form ← formSection.of members
  let formFound ← formSection.find form
  let method ← (← formSection.need form formFound "method").text
  let action ← (← formSection.need form formFound "action").text
  let submitLabel ← (← formSection.need form formFound "submit_label").text
  let document ← documentSection.of members
  let documentFound ← documentSection.find document
  let policy ← (← documentSection.need document documentFound "policy").policy
  let title ← Located.text? (documentFound.lookup "title")
  let htmlFound ← htmlSection.find ((members.lookup "html").getD (.table [] none))
  let customCss ← Located.text? (htmlFound.lookup "custom_css")
  return { rows, placeholder, method, action, submitLabel, policy, title, customCss }

end Questionnaire
