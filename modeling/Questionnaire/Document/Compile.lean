import Questionnaire.Document.Basic
import Questionnaire.Document.Outline
import Questionnaire.Document.Reporting
import Questionnaire.Document.Scope
import Questionnaire.Field.Grammar
import Questionnaire.Field.Header
import Questionnaire.Field.Markup

/-! Compiling documents. The slides and their passages are compiled in source order, and reports are
made as they are compiled. At a malformed field the policy decides: the document ends there, or the
passage stays as text. -/

namespace Questionnaire

/-- The report that no grammar reads a right-hand side. -/
def Diagnostic.unmatched (header : FieldHeader) : Diagnostic :=
  ⟨.warning, header.id, "unmatched element '" ++ header.rhs ++ "', rendering label only"⟩

/-- The report that an earlier field of the slide has the same code. -/
def Diagnostic.repeatedCode (header : FieldHeader) : Diagnostic :=
  ⟨.warning, header.id, "field code '" ++ header.code ++ "' is used more than once on this slide"⟩

def Diagnostic.ofFailure (failure : Failure) (scope : String) : Diagnostic :=
  ⟨.error, failure.field?.getD scope, failure.message⟩

/-- Compile a block. It is no field if its first line is no header. -/
def compileField? (block scope : String) (options : FieldOptions) :
    Reporting (Option CompiledField) :=
  match FieldHeader.readBlock? block scope with
  | none => return none
  | some (header, body) => do
    let element ← Reporting.silent (classify header body options)
    if element = .unmatched then Reporting.report (.unmatched header)
    return some ⟨header, element, renderField header element options⟩

/-- Compile a passage of a slide on which the codes `seen` are in use. -/
def compilePassage (scope : String) (options : FieldOptions) (policy : Policy)
    (seen : List String) (passage : Passage) : Reporting Block :=
  let text := passage.text
  if !passage.isCandidate then return .text text
  else do
    match ← Reporting.attempt (compileField? text scope options) with
    | .ok none => return .text text
    | .ok (some field) =>
      if seen.contains field.header.code then Reporting.report (.repeatedCode field.header)
      return .field field
    | .error failure =>
      Reporting.report (.ofFailure failure scope)
      match policy with
      | .strict => Reporting.silent (.error failure)
      | .lenient => return .text text

def Block.code? (block : Block) : Option String := block.field?.map fun field => field.header.code

def compilePassages (scope : String) (options : FieldOptions) (policy : Policy)
    (seen : List String) : List Passage → Reporting (List Block)
  | [] => return []
  | passage :: rest => do
    let block ← compilePassage scope options policy seen passage
    let blocks ← compilePassages scope options policy (block.code?.toList ++ seen) rest
    return block :: blocks

/-- Compile slides, giving each a scope of its own. -/
def compileSlides (options : FieldOptions) (policy : Policy) (scopes : Scopes) :
    List RawSlide → Reporting (List Slide)
  | [] => return []
  | raw :: rest => do
    let (scope, scopes) := scopes.allot raw.title
    let blocks ← compilePassages scope options policy [] raw.passages
    let slides ← compileSlides options policy scopes rest
    return ⟨raw.title, scope, blocks⟩ :: slides

/-- The outcome of compiling: a document or the error that ended it, and what was reported. -/
abbrev Compilation := Reporting Document

def compile (source title : String) (options : FieldOptions) (policy : Policy) : Compilation := do
  let slides ← compileSlides options policy {} (outline source title)
  return ⟨title, slides⟩

end Questionnaire
