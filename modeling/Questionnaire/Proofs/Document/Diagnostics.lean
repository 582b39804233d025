import Mathlib.Data.List.Infix
import Questionnaire.Proofs.Document.Reading

/-! # What a lenient run reports

A run reports about one passage after the other and keeps the codes it has seen on the slide. Here
the codes are read off the passages that come before, so that it can be said for every passage by
itself what is due about it. A run reports that and nothing else.
-/

namespace Questionnaire
open Text

/-! ## Single passages -/

namespace Passage

variable (options : FieldOptions) (scope : String)

/-- What is due about a passage on a slide whose fields before it have the codes `earlier`. Headings
and fences are never spoken of. -/
def due (earlier : List String) : Passage → List Diagnostic
  | heading .. | fenced _ => []
  | paragraph lines =>
    match FieldHeader.readBlock? (String.ofList (joinLines lines)) scope with
    | none => []
    | some (header, body) =>
      match classify header body options with
      | .error failure => [⟨.error, header.id, failure.message⟩]
      | .ok element =>
        (if element = .unmatched then
          [⟨.warning, header.id,
            "unmatched element '" ++ header.rhs ++ "', rendering label only"⟩] else []) ++
        if header.code ∈ earlier then
          [⟨.warning, header.id,
            "field code '" ++ header.code ++ "' is used more than once on this slide"⟩] else []

variable {options scope}

/-- What a run reports about a passage is what is due about it. -/
theorem reports_eq_due (seen : List String) (passage : Passage) :
    passage.reports options scope seen = passage.due options scope seen := by
  unfold reports reading
  cases passage with
  | heading title line => rfl
  | fenced lines => rfl
  | paragraph lines =>
    simp only [isCandidate, if_true, due, text]
    cases FieldHeader.readBlock? (String.ofList (joinLines lines)) scope with
    | none => rfl
    | some read =>
      obtain ⟨header, body⟩ := read
      cases classified : classify header body options with
      | error failure =>
        obtain ⟨reason, rfl⟩ := classify_eq_error classified
        simp only [classified]
        rfl
      | ok element =>
        simp [classified, CompiledField.reports, Diagnostic.unmatched, Diagnostic.repeatedCode]

theorem due_congr {earlier seen : List String} (same : ∀ code, code ∈ earlier ↔ code ∈ seen)
    (passage : Passage) :
    passage.due options scope earlier = passage.due options scope seen := by
  cases passage with
  | heading title line => rfl
  | fenced lines => rfl
  | paragraph lines => simp only [due, same]

/-- A passage, once it is passed, puts the code of its field into use. -/
theorem mem_codes_append {seen : List String} {earlier : List Passage} (passage : Passage)
    (used : ∀ code, code ∈ seen ↔ code ∈ earlier.filterMap (Passage.code? options scope))
    (code : String) :
    code ∈ (passage.code? options scope).toList ++ seen ↔
      code ∈ (earlier ++ [passage]).filterMap (Passage.code? options scope) := by
  rw [List.mem_append, used, List.filterMap_append, List.mem_append, or_comm]
  cases h : passage.code? options scope <;> simp [h]

end Passage

/-! ## Slides and documents -/

section

variable (options : FieldOptions)

/-- The passages, each with those before it. -/
def withEarlier (passages : List Passage) : List (List Passage × Passage) :=
  passages.inits.zip passages

/-- What is due about the passages of a slide, in order: about each one with the codes of the fields
before it. -/
def ScopedSlide.due (slide : ScopedSlide) : List Diagnostic :=
  (withEarlier slide.passages).flatMap fun (earlier, passage) =>
    passage.due options slide.scope (earlier.filterMap (Passage.code? options slide.scope))

/-- Reports about the passages from some place on a slide, when the codes in use are those of the
fields before this place. -/
theorem passageReports_eq_due (scope : String) (seen : List String) (before rest : List Passage)
    (used : ∀ code, code ∈ seen ↔ code ∈ before.filterMap (Passage.code? options scope)) :
    passageReports options scope seen rest =
      (withEarlier rest).flatMap fun (earlier, passage) =>
        passage.due options scope
          ((before ++ earlier).filterMap (Passage.code? options scope)) := by
  -- a passage that is passed moves to the end of `before`, as its code joins `seen`
  induction rest generalizing seen before with
  | nil => rfl
  | cons passage rest ih =>
    have here : passage.reports options scope seen =
        passage.due options scope (before.filterMap (Passage.code? options scope)) := by
      rw [Passage.reports_eq_due]
      exact Passage.due_congr used passage
    rw [passageReports, here, ih _ (before ++ [passage]) (Passage.mem_codes_append passage used)]
    simp [withEarlier, List.zip_map_left, List.flatMap_map]

theorem ScopedSlide.reports_eq_due (slide : ScopedSlide) :
    slide.reports options = slide.due options :=
  passageReports_eq_due options slide.scope [] [] slide.passages (by simp)

theorem compileField?_silent {block scope : String}
    (h : ∀ field, (compileField? block scope options).result ≠ .ok (some field)) :
    (compileField? block scope options).diagnostics = [] := by
  rw [compileField?_eq] at h ⊢
  cases read : FieldHeader.readBlock? block scope with
  | none => rfl
  | some found =>
    obtain ⟨header, body⟩ := found
    cases classified : classify header body options with
    | error failure => simp [classified]
    | ok element =>
      rw [read] at h
      simp only [classified] at h
      exact absurd rfl (h _)

/-- **Reports are complete and exact.** A lenient run reports what is due about every passage, in
the order of the source, and nothing else; and a block that is no field, or a malformed one, has
been compiled without a report. -/
theorem lenient_diagnostics_eq_due (source title : String) :
    (compile source title options .lenient).diagnostics =
        (scopedOutline source title).flatMap (ScopedSlide.due options) ∧
      ∀ block scope, (∀ field, (compileField? block scope options).result ≠ .ok (some field)) →
        (compileField? block scope options).diagnostics = [] := by
  refine ⟨?_, fun block scope => compileField?_silent options⟩
  rw [compile_lenient]
  exact List.flatMap_congr fun slide _ => slide.reports_eq_due options

/-- All three kinds of reports, and a code that does not repeat on the next slide. -/
theorem lenient_diagnostics_eq_due_repeats :
    (compile "q = ?\n\nr = [4294967296]\n\nq = ___\n\n# B\n\nq = ___\n" "Quiz" {}
        .lenient).diagnostics =
      [⟨.warning, "quiz_q", "unmatched element '?', rendering label only"⟩,
        ⟨.error, "quiz_r", "Malformed field 'quiz_r': row count '4294967296' in '[4294967296]' " ++
          "is not usable: number too large to fit in target type"⟩,
        ⟨.warning, "quiz_q", "field code 'q' is used more than once on this slide"⟩] ∧
      (compileField? "r = [4294967296]" "quiz" {}).diagnostics = [] := by
  obtain ⟨reported, silent⟩ := lenient_diagnostics_eq_due {}
    "q = ?\n\nr = [4294967296]\n\nq = ___\n\n# B\n\nq = ___\n" "Quiz"
  refine ⟨reported.trans (by decide +kernel), silent "r = [4294967296]" "quiz" ?_⟩
  intro field compiled
  have failed : (compileField? "r = [4294967296]" "quiz" {}).result.isOk = false := by
    decide +kernel
  rw [compiled] at failed
  cases failed

end

end Questionnaire
