import Questionnaire.Proofs.Document.Gathering
import Questionnaire.Proofs.Document.Reading
import Questionnaire.Proofs.Text.Lines

/-! # Editing a paragraph

A paragraph between two blank lines, outside a fence, is one passage of the source whatever its
lines say, and all other passages stay as they are. No title depends on it, so no scope does, and
what a passage is compiled to depends on nothing but its text and its scope: the document stays the
same around the block of the paragraph.
-/

namespace Questionnaire
open Text

/-! ## Lines -/

structure IsParagraph (lines : List (List Char)) : Prop where
  ne_nil : lines ≠ []
  isLine : ∀ line ∈ lines, IsLine line
  not_blank : ∀ line ∈ lines, allBlank line = false
  not_fence : ∀ line ∈ lines, isFence line = false
  not_heading : ∀ line ∈ lines, headingTitle? line = none

/-- Each line of a paragraph is one of text. -/
theorem IsParagraph.prose {lines : List (List Char)} (h : IsParagraph lines) :
    ∀ line ∈ lines, isProse line = true := fun line hm =>
  isProse_iff.mpr ⟨h.not_fence line hm, h.not_heading line hm, h.not_blank line hm⟩

namespace Passage

/-- What stands behind a paragraph and a blank line does not depend on the paragraph. -/
theorem gather_below {gap : List Char} (gapLine : IsLine gap) (blank : allBlank gap = true)
    (below : List (List Char)) :
    ∃ after, ∀ lines ≠ [],
      gather false lines (Text.lines (joinLines (gap :: below))) = .paragraph lines :: after := by
  have ended : ∀ (rest : List (List Char)), ∀ lines ≠ [],
      gather false lines (gap :: rest) = .paragraph lines :: gather false [] rest := by
    intro rest lines occupied
    rw [gather_blank blank, ofLines_of_ne_nil occupied, List.singleton_append]
  cases below with
  | nil =>
    by_cases empty : gap = []
    · -- an empty line at the very end is no line of the text
      exact ⟨[], fun lines occupied => by rw [empty]; exact ofLines_of_ne_nil occupied⟩
    · rw [joinLines, lines_line gapLine empty]
      exact ⟨_, ended []⟩
  | cons line more =>
    rw [joinLines.eq_3 _ _ (by simp), lines_line_append gapLine]
    exact ⟨_, ended _⟩

/-- A paragraph between blank lines is one passage, and the others do not depend on it. -/
theorem ofSource_around_paragraph {above : List (List Char)} {gap gap' : List Char}
    (aboveLines : ∀ line ∈ above, IsLine line) (closed : Even (above.countP isFence))
    (gapLine : IsLine gap) (blank : allBlank gap = true) (gapLine' : IsLine gap')
    (blank' : allBlank gap' = true) (below : List (List Char)) :
    ∃ before after, ∀ lines, IsParagraph lines →
      ofSource (String.ofList (joinLines (above ++ gap :: lines ++ gap' :: below))) =
        before ++ .paragraph lines :: after := by
  obtain ⟨after, tail⟩ := gather_below gapLine' blank' below
  refine ⟨gather false [] above, after, fun lines h => ?_⟩
  have front : ∀ line ∈ above ++ gap :: lines, IsLine line := by
    intro line hm
    rcases List.mem_append.mp hm with hm | hm
    · exact aboveLines line hm
    · rcases List.mem_cons.mp hm with rfl | hm
      · exact gapLine
      · exact h.isLine line hm
  have stop : ∀ line ∈ (gap :: (lines ++ Text.lines (joinLines (gap' :: below)))).head?,
      isProse line = false := by
    simpa using isProse_of_allBlank blank
  rw [ofSource, String.toList_ofList, lines_joinLines_append front (by simp), List.append_assoc,
    List.cons_append, gather_append [] stop (by simpa using closed), gather_blank blank, ofLines,
    List.nil_append, gather_prose h.prose, List.nil_append, tail lines h.ne_nil]

end Passage

/-! ## Slides -/

/-- A paragraph belongs to the lead or to one slide, and nothing else depends on it. -/
theorem gatherSlides_around_paragraph (before after : List Passage) :
    (∃ above below slides, ∀ lines,
        gatherSlides (before ++ .paragraph lines :: after) =
          (above ++ .paragraph lines :: below, slides)) ∨
      ∃ lead front title above below slides, ∀ lines,
        gatherSlides (before ++ .paragraph lines :: after) =
          (lead, front ++ ⟨title, above ++ .paragraph lines :: below⟩ :: slides) := by
  -- slides are gathered from the back: the paragraph stays in the lead until a heading before it
  -- makes a slide of the lead
  induction before with
  | nil => exact .inl ⟨[], _, _, fun lines => rfl⟩
  | cons passage before ih =>
    by_cases heading : ∃ title line, passage = .heading title line
    · obtain ⟨title, line, rfl⟩ := heading
      right
      rcases ih with ⟨above, below, slides, ih⟩ | ⟨lead, front, t, above, below, slides, ih⟩
      · refine ⟨[], [], String.ofList title, .heading title line :: above, below, slides, ?_⟩
        intro lines
        rw [List.cons_append, gatherSlides, ih]
        rfl
      · refine ⟨[], ⟨String.ofList title, .heading title line :: lead⟩ :: front, t, above, below,
          slides, ?_⟩
        intro lines
        rw [List.cons_append, gatherSlides, ih]
        rfl
    · have other : ∀ title line, passage ≠ .heading title line := by simpa using heading
      rcases ih with ⟨above, below, slides, ih⟩ | ⟨lead, front, t, above, below, slides, ih⟩
      · refine .inl ⟨passage :: above, below, slides, fun lines => ?_⟩
        rw [List.cons_append, gatherSlides_cons other, ih]
        rfl
      · refine .inr ⟨passage :: lead, front, t, above, below, slides, fun lines => ?_⟩
        rw [List.cons_append, gatherSlides_cons other, ih]

theorem outline_around_paragraph (before after : List Passage) (title : String) :
    ∃ front slideTitle above below back, ∀ source lines,
      Passage.ofSource source = before ++ .paragraph lines :: after →
        outline source title =
          front ++ ⟨slideTitle, above ++ .paragraph lines :: below⟩ :: back := by
  rcases gatherSlides_around_paragraph before after with
    ⟨above, below, slides, h⟩ | ⟨lead, front, t, above, below, slides, h⟩
  · refine ⟨[], title, above, below, slides, fun source lines he => ?_⟩
    simp [outline, he, h]
  · refine ⟨if lead.isEmpty then front else ⟨title, lead⟩ :: front, t, above, below, slides,
      fun source lines he => ?_⟩
    cases lead <;> simp [outline, he, h]

/-! ## Scopes -/

/-- What has been given out when some slides have their scopes. -/
def Scopes.afterAll (scopes : Scopes) (raws : List RawSlide) : Scopes :=
  raws.foldl (fun scopes raw => (scopes.allot raw.title).2) scopes

theorem allotScopes_append (scopes : Scopes) (front back : List RawSlide) :
    allotScopes scopes (front ++ back) =
      allotScopes scopes front ++ allotScopes (scopes.afterAll front) back := by
  induction front generalizing scopes with
  | nil => rfl
  | cons raw front ih => rw [List.cons_append, allotScopes, ih]; rfl

/-! ## Documents -/

/-- A document with one place on one of its slides left open for a block. -/
structure OpenDocument where
  title : String
  before : List Slide
  slideTitle : String
  scope : String
  above : List Block
  below : List Block
  after : List Slide

def OpenDocument.fill (opened : OpenDocument) (block : Block) : Document :=
  ⟨opened.title, opened.before ++
    ⟨opened.slideTitle, opened.scope, opened.above ++ block :: opened.below⟩ :: opened.after⟩

/-- The block of a paragraph by itself: a field if it compiles to one on a slide with the scope, and
its text otherwise. -/
def paragraphBlock (options : FieldOptions) (scope : String) (lines : List (List Char)) : Block :=
  let text := String.ofList (joinLines lines)
  match (compileField? text scope options).result with
  | .ok (some field) => .field field
  | .ok none | .error _ => .text text

theorem Passage.block_paragraph (options : FieldOptions) (scope : String)
    (lines : List (List Char)) :
    (Passage.paragraph lines).block options scope = paragraphBlock options scope lines := by
  unfold block reading paragraphBlock
  simp only [isCandidate, if_true, text, compileField?_eq]
  cases FieldHeader.readBlock? (String.ofList (joinLines lines)) scope with
  | none => rfl
  | some read =>
    obtain ⟨header, body⟩ := read
    cases classified : classify header body options <;> simp [classified]

/-- **Editing a paragraph changes its block alone.** Take any lines that leave no fence open, a blank
line, and behind another blank line any lines at all. They make up a document with one open place,
and whatever paragraph is written between the blank lines, a lenient run fills that place with the
block of the paragraph. -/
theorem compile_around_paragraph {above : List (List Char)} {gap gap' : List Char}
    (aboveLines : ∀ line ∈ above, IsLine line) (closed : Even (above.countP isFence))
    (gapLine : IsLine gap) (blank : allBlank gap = true) (gapLine' : IsLine gap')
    (blank' : allBlank gap' = true) (below : List (List Char)) (title : String)
    (options : FieldOptions) :
    ∃ opened : OpenDocument, ∀ lines, IsParagraph lines →
      (compile (String.ofList (joinLines (above ++ gap :: lines ++ gap' :: below))) title options
          .lenient).result =
        .ok (opened.fill (paragraphBlock options opened.scope lines)) := by
  obtain ⟨before, after, source⟩ :=
    Passage.ofSource_around_paragraph aboveLines closed gapLine blank gapLine' blank' below
  obtain ⟨front, slideTitle, upper, lower, back, slides⟩ :=
    outline_around_paragraph before after title
  let allotted := (Scopes.afterAll {} front).allot slideTitle
  let blocks := List.map (Passage.block options allotted.1)
  let compiled := List.map (ScopedSlide.compiled options)
  refine ⟨⟨title, compiled (allotScopes {} front), slideTitle, allotted.1, blocks upper,
    blocks lower, compiled (allotScopes allotted.2 back)⟩, fun lines h => ?_⟩
  rw [compile_lenient, wholeCompilation, scopedOutline, slides _ _ (source lines h),
    allotScopes_append, allotScopes]
  simp [ScopedSlide.compiled, OpenDocument.fill, Passage.block_paragraph, compiled, blocks,
    allotted]

/-- A field, and a malformed one in its place, below a fence and above a field with the same code. -/
theorem compile_around_paragraph_malformed :
    ∃ opened : OpenDocument,
      (compile "~~~\n# no\n~~~\n \na = ___\n\na = (x) b" "Quiz" {} .lenient).result =
        .ok (opened.fill (paragraphBlock {} opened.scope ["a = ___".toList])) ∧
      (compile "~~~\n# no\n~~~\n \na = [99999999999]\n\na = (x) b" "Quiz" {} .lenient).result =
        .ok (opened.fill (paragraphBlock {} opened.scope ["a = [99999999999]".toList])) := by
  obtain ⟨opened, filled⟩ := @compile_around_paragraph
    ["~~~".toList, "# no".toList, "~~~".toList] [' '] [] (by decide) (by decide)
    (by decide) (by decide) (by decide) (by decide) ["a = (x) b".toList] "Quiz" {}
  have one := filled ["a = ___".toList] ⟨by decide, by decide, by decide, by decide, by decide⟩
  have other := filled ["a = [99999999999]".toList]
    ⟨by decide, by decide, by decide, by decide, by decide⟩
  exact ⟨opened, one, other⟩

end Questionnaire
