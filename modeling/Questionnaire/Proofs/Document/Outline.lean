import Mathlib.Data.List.Basic
import Questionnaire.Document.Outline
import Questionnaire.Proofs.Text.Lines

/-! # An outline keeps the lines of its source

Gathering leaves out blank lines between passages and nothing else: the passages gathered so far, the
lines held for the passage under way and the lines still to come are together the source. The texts
of the passages split into their lines again.
-/

namespace Questionnaire
open Text

namespace Passage

def content : Passage → List (List Char)
  | paragraph lines | fenced lines => lines
  | heading _ line => [line]

@[simp] theorem flatMap_content_ofLines (lines : List (List Char)) :
    (ofLines lines).flatMap content = lines := by
  cases lines <;> simp [ofLines, content]

/-! ## Gathering lines into passages -/

/-- Only blank lines are lost on the way into passages. -/
theorem nonBlank_gather (fence : Bool) (held rest : List (List Char)) :
    nonBlank ((gather fence held rest).flatMap content) = nonBlank (held ++ rest) := by
  induction rest generalizing fence held with
  | nil => cases fence <;> simp [gather, content]
  | cons line rest ih =>
    rw [gather]
    cases fence with
    | true =>
      simp only [if_true]
      split <;> simp [content, ih]
    | false =>
      simp only [Bool.false_eq_true, if_false]
      split
      · simp [ih]
      · split
        · simp [content, ih]
        · split
          · rename_i blank; simp [ih, blank]
          · simp [ih]

/-- Lines get into passages in their order, and no line gets there twice. -/
theorem gather_sublist (fence : Bool) (held rest : List (List Char)) :
    ((gather fence held rest).flatMap content).Sublist (held ++ rest) := by
  induction rest generalizing fence held with
  | nil => cases fence <;> simp [gather, content]
  | cons line rest ih =>
    have closed := ih false []
    have grown : ∀ fence, ((gather fence (held ++ [line]) rest).flatMap content).Sublist
        (held ++ line :: rest) := fun fence => by simpa using ih fence (held ++ [line])
    rw [gather]
    cases fence with
    | true =>
      simp only [if_true]
      split
      · simpa [content] using closed
      · exact grown true
    | false =>
      simp only [Bool.false_eq_true, if_false]
      split
      · simpa using ih true [line]
      · split
        · simpa [content] using closed
        · split
          · simpa using closed.cons line
          · exact grown false

/-! ## Passages as texts -/

/-- The text of a passage splits into its lines again; at the end of an open fence only empty ones
are left out. -/
theorem nonBlank_splitOn_text {passage : Passage} (free : ∀ line ∈ passage.content, '\n' ∉ line) :
    nonBlank (passage.text.toList.splitOn '\n') = nonBlank passage.content := by
  cases passage with
  | paragraph lines =>
    rw [text, String.toList_ofList]
    exact nonBlank_splitOn_joinLines free
  | heading title line =>
    rw [text, String.toList_ofList, List.splitOn_eq_singleton (free line (by simp [content]))]
    rfl
  | fenced lines =>
    rw [text, String.toList_ofList, nonBlank_splitOn_dropEnd]
    exact nonBlank_splitOn_joinLines free

/-- No line of a passage holds a line feed. -/
theorem feed_not_mem_content {source : String} {passage : Passage} (hp : passage ∈ ofSource source) :
    ∀ line ∈ passage.content, '\n' ∉ line := by
  intro line hl
  have hm : line ∈ (ofSource source).flatMap content := List.mem_flatMap.mpr ⟨passage, hp, hl⟩
  exact lines_free source.toList line ((gather_sublist false [] _).subset hm)

/-- The texts of the passages of a source have its lines. -/
theorem nonBlank_ofSource (source : String) :
    ((ofSource source).flatMap fun passage => nonBlank (passage.text.toList.splitOn '\n')) =
      nonBlank (lines source.toList) := by
  calc (ofSource source).flatMap (fun passage => nonBlank (passage.text.toList.splitOn '\n'))
      = (ofSource source).flatMap fun passage => nonBlank passage.content :=
        List.flatMap_congr fun passage hp => nonBlank_splitOn_text (feed_not_mem_content hp)
    _ = nonBlank ((ofSource source).flatMap content) := List.filter_flatMap.symm
    _ = nonBlank (lines source.toList) := nonBlank_gather false [] (lines source.toList)

end Passage

/-! ## Gathering passages into slides -/

/-- Every passage is in the lead or in one slide, and their order stays. -/
theorem passages_gatherSlides (passages : List Passage) :
    (gatherSlides passages).1 ++ (gatherSlides passages).2.flatMap RawSlide.passages = passages := by
  induction passages with
  | nil => rfl
  | cons passage rest ih => cases passage <;> simp [gatherSlides, ih]

/-- A lead is left out of the outline only where it is empty. -/
theorem passages_outline (source title : String) :
    (outline source title).flatMap RawSlide.passages = Passage.ofSource source := by
  have all := passages_gatherSlides (Passage.ofSource source)
  unfold outline
  generalize gatherSlides (Passage.ofSource source) = gathered at all
  obtain ⟨lead, slides⟩ := gathered
  dsimp only
  split
  · rename_i empty
    have none : lead = [] := List.isEmpty_iff.mp (Bool.and_eq_true_iff.mp empty).1
    simpa [none] using all
  · exact all

end Questionnaire
