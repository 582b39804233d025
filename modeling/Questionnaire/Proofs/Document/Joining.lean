import Questionnaire.Proofs.Document.Gathering
import Questionnaire.Proofs.Document.Outline

/-! # Joining sources at a heading

A heading ends the paragraph above it and starts a slide. So where no fence is open above a heading,
the outline of a source is that of the text above the heading and, behind it, that of the rest.
-/

namespace Questionnaire
open Text

/-- What is gathered above a heading and from it on is gathered apart. -/
theorem Passage.ofSource_append {above below : String} {line : List Char}
    (ended : above.toList.getLast? = some '\n')
    (closed : Even ((lines above.toList).countP isFence))
    (first : (lines below.toList).head? = some line) (headed : (headingTitle? line).isSome = true) :
    ofSource (above ++ below) = ofSource above ++ ofSource below := by
  have stop : ∀ next ∈ (lines below.toList).head?, isProse next = false := by
    intro next hm
    obtain ⟨title, read⟩ := Option.isSome_iff_exists.mp headed
    rw [first] at hm
    cases hm
    exact isProse_of_headingTitle? read
  obtain ⟨text, whole⟩ := List.getLast?_eq_some_iff.mp ended
  have all : lines (above ++ below).toList = lines above.toList ++ lines below.toList := by
    rw [String.toList_append, whole, List.append_assoc]
    exact lines_append text below.toList
  rw [ofSource, all, gather_append [] stop (by simpa using closed)]
  rfl

/-- A source that begins with a heading has nothing before its first slide. -/
theorem gatherSlides_of_headed {source : String} {line : List Char}
    (first : (lines source.toList).head? = some line) (headed : (headingTitle? line).isSome = true) :
    (gatherSlides (Passage.ofSource source)).1 = [] ∧
      (gatherSlides (Passage.ofSource source)).2 ≠ [] := by
  obtain ⟨more, whole⟩ := List.head?_eq_some_iff.mp first
  obtain ⟨title, read⟩ := Option.isSome_iff_exists.mp headed
  rw [Passage.ofSource, whole, Passage.gather_heading read]
  simp [Passage.ofLines, gatherSlides]

/-- A text with a line that is not blank has passages. -/
theorem Passage.ofSource_ne_nil {source : String} {line : List Char}
    (hm : line ∈ lines source.toList) (occupied : allBlank line = false) : ofSource source ≠ [] := by
  intro none
  have all := nonBlank_ofSource source
  rw [none, List.flatMap_nil] at all
  have kept : line ∈ nonBlank (lines source.toList) := List.mem_filter.mpr ⟨hm, by simp [occupied]⟩
  rw [← all] at kept
  cases kept

/-- **Outlines compose at headings.** Behind a text with something in it, which ends with a line feed
and leaves no fence open, a source that begins with a heading has the slides that it has alone. -/
theorem outline_append {above below : String} {line heading : List Char}
    (inside : line ∈ lines above.toList) (occupied : allBlank line = false)
    (ended : above.toList.getLast? = some '\n')
    (closed : Even ((lines above.toList).countP isFence))
    (first : (lines below.toList).head? = some heading)
    (headed : (headingTitle? heading).isSome = true) (documentTitle : String) :
    outline (above ++ below) documentTitle =
      outline above documentTitle ++ outline below documentTitle := by
  obtain ⟨noLead, slides⟩ := gatherSlides_of_headed first headed
  have passages := passages_gatherSlides (Passage.ofSource above)
  have some := Passage.ofSource_ne_nil inside occupied
  rw [outline, outline, outline, Passage.ofSource_append ended closed first headed,
    gatherSlides_append _ noLead]
  rw [← passages] at some
  generalize gatherSlides (Passage.ofSource above) = gathered at some
  generalize gatherSlides (Passage.ofSource below) = rest at noLead slides
  obtain ⟨lead, upper⟩ := gathered
  obtain ⟨_, lower⟩ := rest
  dsimp only at noLead slides
  subst noLead
  cases lead with
  | cons passage lead => simp [slides]
  | nil =>
    have upper_ne : upper ≠ [] := by
      rintro rfl
      exact some rfl
    simp [slides, upper_ne]

/-- A fence that is closed above a heading with a fence below it, and a carriage return at the end of
the last line. -/
theorem outline_append_fences :
    outline "~~~\n# no\n```\na = ___\r\n# B\n~~~\n" "Quiz" =
      outline "~~~\n# no\n```\na = ___\r\n" "Quiz" ++ outline "# B\n~~~\n" "Quiz" :=
  @outline_append "~~~\n# no\n```\na = ___\r\n" "# B\n~~~\n" "a = ___".toList "# B".toList
    (by decide +kernel) (by decide) (by decide) (by decide +kernel) (by decide +kernel) (by decide)
    "Quiz"

end Questionnaire
