import Questionnaire.Proofs.Document.Conservation
import Questionnaire.Proofs.Document.Cutting
import Questionnaire.Proofs.Field.Size

/-! # The document title names the preface

Where a source opens with a heading, no slide has the title of the document, and nothing that is
compiled from the source depends on it. Any other source has a preface, and only that is named by the
title. The ids of the fields may then depend on the title, by the scopes, but not whether a field is
malformed: so a document is given for both of two titles or for neither.
-/

namespace Questionnaire
open Text

/-- The first line that is not blank is a heading. -/
def OpensWithHeading (source : String) : Prop :=
  ∃ line ∈ (nonBlank (lines source.toList)).head?, (headingTitle? line).isSome = true

instance (source : String) : Decidable (OpensWithHeading source) :=
  inferInstanceAs (Decidable (∃ line ∈ (nonBlank (lines source.toList)).head?,
    (headingTitle? line).isSome = true))

/-! ## The outline -/

namespace Passage

/-- Blank lines do not keep a heading from being the first passage. -/
theorem gather_heading_first {all : List (List Char)} {line title : List Char}
    (first : (nonBlank all).head? = some line) (read : headingTitle? line = some title) :
    ∃ rest, gather false [] all = .heading title line :: rest := by
  induction all with
  | nil => cases first
  | cons next rest ih =>
    rw [nonBlank_cons] at first
    by_cases blank : allBlank next = true
    · rw [if_pos blank] at first
      rw [gather_blank blank]
      exact ih first
    · rw [if_neg blank] at first
      cases first
      exact ⟨gather false [] rest, gather_heading read [] rest⟩

theorem ofSource_heading_iff {source : String} :
    (∃ title line rest, ofSource source = .heading title line :: rest) ↔
      OpensWithHeading source := by
  constructor
  · rintro ⟨title, line, rest, passages⟩
    obtain ⟨placed, same, -, mem_iff⟩ := exists_placed source
    have first : Passage.heading title line ∈ placed.map Placed.passage := by
      rw [same, passages]
      exact List.mem_cons_self
    obtain ⟨entry, hm, isHeading⟩ := List.mem_map.mp first
    have read : headingTitle? line = some title := by
      have h := (mem_iff entry).mp hm
      rw [isHeading] at h
      generalize entry.start = start, (Passage.heading title line).text = text at h
      cases h with
      | heading _ _ read => exact read
    have occupied : allBlank line = false := by
      by_contra blank
      rw [headingTitle?_of_allBlank (by simpa using blank)] at read
      cases read
    -- no passage has a line above that of the first one
    have kept : nonBlank ((ofSource source).flatMap content) = nonBlank (lines source.toList) :=
      nonBlank_gather false [] (lines source.toList)
    refine ⟨line, ?_, by simp [read]⟩
    rw [← kept, passages]
    simp [content, occupied]
  · rintro ⟨line, first, headed⟩
    obtain ⟨title, read⟩ := Option.isSome_iff_exists.mp headed
    obtain ⟨rest, passages⟩ := gather_heading_first first read
    exact ⟨title, line, rest, passages⟩

end Passage

theorem gatherSlides_heading_iff (passages : List Passage) :
    (((gatherSlides passages).1.isEmpty && !(gatherSlides passages).2.isEmpty) = true) ↔
      ∃ title line rest, passages = .heading title line :: rest := by
  cases passages with
  | nil => simp [gatherSlides]
  | cons passage rest => cases passage <;> simp [gatherSlides]

/-- A source that opens with a heading has no preface. -/
theorem outline_of_opensWithHeading {source : String} (h : OpensWithHeading source)
    (documentTitle : String) :
    outline source documentTitle = (gatherSlides (Passage.ofSource source)).2 :=
  if_pos ((gatherSlides_heading_iff _).mpr (Passage.ofSource_heading_iff.mpr h))

/-- Any other source has one, and the title of the document stands nowhere else. -/
theorem outline_of_not_opensWithHeading {source : String} (h : ¬ OpensWithHeading source)
    (documentTitle : String) :
    outline source documentTitle =
      ⟨documentTitle, (gatherSlides (Passage.ofSource source)).1⟩ ::
        (gatherSlides (Passage.ofSource source)).2 :=
  if_neg fun headed => h (Passage.ofSource_heading_iff.mp ((gatherSlides_heading_iff _).mp headed))

/-! ## Malformed fields -/

namespace FieldHeader

def inScope (header : FieldHeader) (scope : String) : FieldHeader :=
  { header with id := scope ++ "_" ++ header.code }

theorem read?_inScope (line scope other : String) :
    read? line other = (read? line scope).map fun header => header.inScope other := by
  unfold read?
  simp [Option.map_bind, inScope]

/-- The scope is in the id of a field, and nowhere else in what is read off a block. -/
theorem readBlock?_inScope (block scope other : String) :
    readBlock? block other =
      (readBlock? block scope).map fun read => (read.1.inScope other, read.2) := by
  unfold readBlock?
  cases lines block.toList with
  | nil => rfl
  | cons first body =>
    dsimp only
    rw [read?_inScope _ scope other]
    cases read? (String.ofList first) scope <;> rfl

end FieldHeader

/-- Whether a field is malformed goes by its right-hand side. -/
theorem classify_inScope_isOk (header : FieldHeader) (scope : String) (body : List String)
    (options : FieldOptions) :
    (classify (header.inScope scope) body options).isOk = (classify header body options).isOk := by
  have fails (input : RuleInput) (same : input.rhs = trim header.rhs.toList) :
      ((Rule.firstAnswer Rule.table input).isOk = false ↔
        ∃ dimension digits, GivesSize dimension digits (trim header.rhs.toList) ∧
          Unusable digits) := by
    rw [← same, ← Rule.firstAnswer_fails_iff]
    cases Rule.firstAnswer Rule.table input <;> simp [Except.isOk, Except.toBool]
  have ok (input : RuleInput) :
      ((Rule.firstAnswer Rule.table input).map fun answer => answer.getD .unmatched).isOk =
        (Rule.firstAnswer Rule.table input).isOk := by
    cases Rule.firstAnswer Rule.table input <;> rfl
  unfold classify
  rw [ok, ok, Bool.eq_iff_iff, ← not_iff_not, Bool.not_eq_true, Bool.not_eq_true, fails _ rfl,
    fails _ rfl]

section

variable (options : FieldOptions)

/-- Whether a passage is malformed does not depend on its slide. -/
theorem Passage.fault?_isSome_scope (passage : Passage) (scope other : String) :
    (passage.fault? options other).isSome = (passage.fault? options scope).isSome := by
  unfold fault? reading
  cases passage.isCandidate with
  | false => rfl
  | true =>
    rw [FieldHeader.readBlock?_inScope _ scope other]
    cases FieldHeader.readBlock? passage.text scope with
    | none => rfl
    | some read =>
      obtain ⟨header, body⟩ := read
      have same := classify_inScope_isOk header other body options
      dsimp only [Option.map_some]
      generalize classify (header.inScope other) body options = moved,
        classify header body options = stayed at same ⊢
      cases moved <;> cases stayed <;> first | rfl | cases same

/-- A run gives a document just where it is lenient or no passage is malformed. -/
theorem compile_isOk_iff (source title scope : String) (policy : Policy) :
    (∃ document, (compile source title options policy).result = .ok document) ↔
      policy = .lenient ∨
        ∀ passage ∈ Passage.ofSource source, (passage.fault? options scope).isSome = false := by
  have runs := compile_stops options source title
  cases policy with
  | lenient => exact ⟨fun _ => .inl rfl, fun _ => runs.lenient_ok⟩
  | strict =>
    have through : (∃ document, (compile source title options .strict).result = .ok document) ↔
        firstFault? options source title = none := by
      generalize firstFault? options source title = fault,
        compile source title options .strict = strict,
        compile source title options .lenient = lenient at runs ⊢
      cases runs with
      | through _ => simp
      | stopped _ => simp
    rw [through, firstFault?, ← passages_scopedOutline source title]
    simp only [reduceCtorEq, false_or, List.findSome?_eq_none_iff, ScopedSlide.fault?,
      List.mem_flatMap]
    constructor
    · rintro none passage ⟨slide, hs, hp⟩
      rw [passage.fault?_isSome_scope options slide.scope, none slide hs passage hp]
      rfl
    · intro sound slide hs passage hp
      have here := sound passage ⟨slide, hs, hp⟩
      rw [passage.fault?_isSome_scope options slide.scope] at here
      simpa using here

end

/-! ## Documents -/

def Document.slideTitles (document : Document) : List String := document.slides.map Slide.title

theorem titles_allotScopes (scopes : Scopes) (raws : List RawSlide) :
    (allotScopes scopes raws).map (fun slide => slide.title) = raws.map RawSlide.title := by
  induction raws generalizing scopes with
  | nil => rfl
  | cons raw rest ih => simp [allotScopes, ih]

/-- The slides of a document have the titles of its outline. -/
theorem slideTitles_of_compile {source title : String} {options : FieldOptions} {policy : Policy}
    {document : Document} (h : (compile source title options policy).result = .ok document) :
    document.slideTitles = (outline source title).map RawSlide.title := by
  rw [compile_eq_whole options h] at h
  cases h
  rw [← titles_allotScopes {}]
  simp [Document.slideTitles, scopedOutline, ScopedSlide.compiled]

theorem compile_congr {source one other : String} (options : FieldOptions) (policy : Policy)
    (same : outline source one = outline source other) :
    (compile source one options policy).result.map Document.slides =
        (compile source other options policy).result.map Document.slides ∧
      (compile source one options policy).diagnostics =
        (compile source other options policy).diagnostics := by
  unfold compile
  rw [same]
  generalize compileSlides options policy {} (outline source other) = run
  obtain ⟨result, reports⟩ := run
  cases result with
  | ok slides => exact ⟨rfl, rfl⟩
  | error failure => exact ⟨rfl, rfl⟩

/-- **The document title names the preface and nothing else.** Of a source that opens with a heading,
the slides, the reports and the error are the same under any two titles. Of any other source, the
first slide has the title, the later ones have the same titles and the same text under both, and there
is a document under both titles or under neither. -/
theorem title_names_preface (source one other : String) (options : FieldOptions)
    (policy : Policy) :
    let run (title : String) := compile source title options policy
    (OpensWithHeading source →
      (run one).result.map Document.slides = (run other).result.map Document.slides ∧
        (run one).diagnostics = (run other).diagnostics) ∧
    (¬ OpensWithHeading source →
      (∃ lead later, ∀ title, outline source title = ⟨title, lead⟩ :: later) ∧
        ∀ document, (run one).result = .ok document →
          ∃ document', (run other).result = .ok document' ∧
            ∃ titles, document.slideTitles = one :: titles ∧
              document'.slideTitles = other :: titles) := by
  intro run
  refine ⟨fun headed => ?_, fun unheaded => ⟨?_, ?_⟩⟩
  · refine compile_congr options policy ?_
    rw [outline_of_opensWithHeading headed, outline_of_opensWithHeading headed]
  · exact ⟨_, _, outline_of_not_opensWithHeading unheaded⟩
  · intro document given
    have sound := (compile_isOk_iff options source one "" policy).mp ⟨document, given⟩
    obtain ⟨document', given'⟩ := (compile_isOk_iff options source other "" policy).mpr sound
    refine ⟨document', given', (gatherSlides (Passage.ofSource source)).2.map RawSlide.title, ?_, ?_⟩
    · rw [slideTitles_of_compile given, outline_of_not_opensWithHeading unheaded, List.map_cons]
    · rw [slideTitles_of_compile given', outline_of_not_opensWithHeading unheaded, List.map_cons]

/-- A heading with the title of the document, below blank lines and below a text. Below the text, the
preface has the scope of the heading under one title only, and the field is malformed under both. -/
theorem title_names_preface_repeated :
    ((compile "\n \n# Quiz\n\nq = ___\n" "Quiz" {} .strict).result.map Document.slides =
        (compile "\n \n# Quiz\n\nq = ___\n" "Other" {} .strict).result.map Document.slides ∧
      (compile "\n \n# Quiz\n\nq = ___\n" "Quiz" {} .strict).diagnostics =
        (compile "\n \n# Quiz\n\nq = ___\n" "Other" {} .strict).diagnostics) ∧
    ∃ document document',
      (compile "Hi\n\n# Quiz\n\nq = [4294967296]\n" "Quiz" {} .lenient).result = .ok document ∧
      (compile "Hi\n\n# Quiz\n\nq = [4294967296]\n" "Other" {} .lenient).result = .ok document' ∧
      ∃ titles, document.slideTitles = "Quiz" :: titles ∧ document'.slideTitles = "Other" :: titles := by
  constructor
  · exact (title_names_preface "\n \n# Quiz\n\nq = ___\n" "Quiz" "Other" {} .strict).1
      (by decide +kernel)
  · obtain ⟨document, given⟩ :=
      (compile_stops {} "Hi\n\n# Quiz\n\nq = [4294967296]\n" "Quiz").lenient_ok
    obtain ⟨document', given', titles⟩ :=
      ((title_names_preface "Hi\n\n# Quiz\n\nq = [4294967296]\n" "Quiz" "Other" {} .lenient).2
        (by decide +kernel)).2 document given
    exact ⟨document, document', given, given', titles⟩

end Questionnaire
