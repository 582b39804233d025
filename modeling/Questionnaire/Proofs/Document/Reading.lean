import Questionnaire.Document.Compile
import Questionnaire.Proofs.Field.Grammar
import Questionnaire.Proofs.Field.Header

/-! # What a document is made of

Every passage is read on its own: as text, as a field, or as a malformed field. Its reading depends
on the scope of its slide and on nothing before it, and a run that ends with a document ends with the
block of every passage and has made the reports about every passage, in source order.
-/

namespace Questionnaire

/-! ## Single passages -/

inductive Reading where
  | text
  | field (field : CompiledField)
  /-- A header whose right-hand side gives a number that cannot be used. -/
  | malformed (failure : Failure)

/-- The reports about a field on a slide on which the codes `seen` are in use. -/
def CompiledField.reports (seen : List String) (field : CompiledField) : List Diagnostic :=
  (if field.element = .unmatched then [Diagnostic.unmatched field.header] else []) ++
    if seen.contains field.header.code then [Diagnostic.repeatedCode field.header] else []

namespace Passage

variable (options : FieldOptions) (scope : String)

def reading (passage : Passage) : Reading :=
  if passage.isCandidate then
    match FieldHeader.readBlock? passage.text scope with
    | none => .text
    | some (header, body) =>
      match classify header body options with
      | .ok element => .field ⟨header, element, renderField header element options⟩
      | .error failure => .malformed failure
  else .text

/-- The block of a passage, a malformed field standing as text. -/
def block (passage : Passage) : Block :=
  match passage.reading options scope with
  | .field field => .field field
  | .text | .malformed _ => .text passage.text

def code? (passage : Passage) : Option String := (passage.block options scope).code?

def fault? (passage : Passage) : Option Failure :=
  match passage.reading options scope with
  | .malformed failure => some failure
  | .text | .field _ => none

def reports (seen : List String) (passage : Passage) : List Diagnostic :=
  match passage.reading options scope with
  | .text => []
  | .field field => field.reports seen
  | .malformed failure => [.ofFailure failure scope]

variable {options scope}

/-- A field is read off its passage: the header with the body below it, the element, and the markup
of both. -/
theorem of_reading_field {passage : Passage} {field : CompiledField}
    (h : passage.reading options scope = .field field) :
    ∃ body, FieldHeader.readBlock? passage.text scope = some (field.header, body) ∧
      classify field.header body options = .ok field.element ∧
      field.markup = renderField field.header field.element options := by
  unfold reading at h
  split at h
  · split at h
    · cases h
    · rename_i header body read
      cases classified : classify header body options with
      | error failure => rw [classified] at h; cases h
      | ok element =>
        rw [classified] at h
        cases h
        exact ⟨body, read, classified, rfl⟩
  · cases h

/-- The field of a passage keeps the text of the passage, and its id starts with the scope. -/
theorem reading_field {passage : Passage} {field : CompiledField}
    (h : passage.reading options scope = .field field) :
    field.header.source = passage.text ∧ field.header.id = scope ++ "_" ++ field.header.code := by
  obtain ⟨body, read, -, -⟩ := of_reading_field h
  exact FieldHeader.of_readBlock? read

/-- The failure of a malformed passage names a field. -/
theorem reading_malformed {passage : Passage} {failure : Failure}
    (h : passage.reading options scope = .malformed failure) :
    ∃ field reason, failure = .malformedField field reason := by
  unfold reading at h
  split at h
  · split at h
    · cases h
    · rename_i header body _
      cases classified : classify header body options with
      | ok element => rw [classified] at h; cases h
      | error other =>
        rw [classified] at h
        cases h
        exact ⟨header.id, classify_eq_error classified⟩
  · cases h

end Passage

section

variable {scope : String} {options : FieldOptions}

/-- Compiling a block: an error comes before any report, and a report only with a field. -/
theorem compileField?_eq (block : String) :
    compileField? block scope options =
      match FieldHeader.readBlock? block scope with
      | none => ⟨.ok none, []⟩
      | some (header, body) =>
        match classify header body options with
        | .error failure => ⟨.error failure, []⟩
        | .ok element =>
          ⟨.ok (some ⟨header, element, renderField header element options⟩),
            if element = .unmatched then [.unmatched header] else []⟩ := by
  unfold compileField?
  cases FieldHeader.readBlock? block scope with
  | none => rfl
  | some read =>
    obtain ⟨header, body⟩ := read
    cases classified : classify header body options with
    | error failure => simp [Reporting.silent, classified]
    | ok element =>
      by_cases h : element = .unmatched <;> simp [Reporting.silent, Reporting.report, classified, h]

/-- Compiling a passage: the reports are made under either policy, and only an error under the
strict one keeps its block out of the document. -/
theorem compilePassage_eq (policy : Policy) (seen : List String) (passage : Passage) :
    compilePassage scope options policy seen passage =
      ⟨match policy, passage.fault? options scope with
        | .strict, some failure => .error failure
        | _, _ => .ok (passage.block options scope),
        passage.reports options scope seen⟩ := by
  unfold Passage.fault? Passage.block Passage.reports Passage.reading
  simp only [compilePassage, Reporting.attempt, compileField?_eq]
  cases passage.isCandidate with
  | false => cases policy <;> rfl
  | true =>
    cases FieldHeader.readBlock? passage.text scope with
    | none => cases policy <;> rfl
    | some read =>
      obtain ⟨header, body⟩ := read
      cases classified : classify header body options with
      | error failure =>
        cases policy <;> simp [Reporting.report, Reporting.silent, classified]
      | ok element =>
        by_cases h : header.code ∈ seen <;> cases policy <;>
          simp [Reporting.report, classified, CompiledField.reports, h]

end

/-! ## Slides and documents -/

section

variable (options : FieldOptions)

/-- The reports about passages of a slide, each with the codes of the fields before it. -/
def passageReports (scope : String) (seen : List String) : List Passage → List Diagnostic
  | [] => []
  | passage :: rest =>
    passage.reports options scope seen ++
      passageReports scope ((passage.code? options scope).toList ++ seen) rest

/-- A slide of an outline with the scope that it is given. -/
structure ScopedSlide extends RawSlide where
  scope : String

def allotScopes (scopes : Scopes) : List RawSlide → List ScopedSlide
  | [] => []
  | raw :: rest => ⟨raw, (scopes.allot raw.title).1⟩ :: allotScopes (scopes.allot raw.title).2 rest

def scopedOutline (source title : String) : List ScopedSlide := allotScopes {} (outline source title)

namespace ScopedSlide

def compiled (slide : ScopedSlide) : Slide :=
  ⟨slide.title, slide.scope, slide.passages.map (Passage.block options slide.scope)⟩

def reports (slide : ScopedSlide) : List Diagnostic :=
  passageReports options slide.scope [] slide.passages

def fault? (slide : ScopedSlide) : Option Failure :=
  slide.passages.findSome? (Passage.fault? options slide.scope)

end ScopedSlide

/-- The document and the reports of a run that no error ends. -/
def wholeCompilation (source title : String) : Compilation :=
  let slides := scopedOutline source title
  ⟨.ok ⟨title, slides.map (ScopedSlide.compiled options)⟩,
    slides.flatMap (ScopedSlide.reports options)⟩

theorem compilePassages_lenient (scope : String) (seen : List String) (passages : List Passage) :
    compilePassages scope options .lenient seen passages =
      ⟨.ok (passages.map (Passage.block options scope)),
        passageReports options scope seen passages⟩ := by
  induction passages generalizing seen with
  | nil => rfl
  | cons passage rest ih =>
    rw [compilePassages, compilePassage_eq, Reporting.ok_bind, ih]
    simp [passageReports, Passage.code?]

theorem compileSlides_lenient (scopes : Scopes) (raws : List RawSlide) :
    compileSlides options .lenient scopes raws =
      ⟨.ok ((allotScopes scopes raws).map (ScopedSlide.compiled options)),
        (allotScopes scopes raws).flatMap (ScopedSlide.reports options)⟩ := by
  induction raws generalizing scopes with
  | nil => rfl
  | cons raw rest ih =>
    simp only [compileSlides, compilePassages_lenient, ih]
    simp [allotScopes, ScopedSlide.compiled, ScopedSlide.reports]

/-- A lenient run is not ended by any error. -/
theorem compile_lenient (source title : String) :
    compile source title options .lenient = wholeCompilation options source title := by
  rw [compile, compileSlides_lenient]
  simp [wholeCompilation, scopedOutline]

end
end Questionnaire
