import Mathlib.Algebra.Group.Nat.Even
import Mathlib.Data.List.TakeWhile
import Questionnaire.Document.Outline

/-! # Gathering line by line

Outside a fence a line goes on the paragraph under way, or it ends it: a blank line, a heading and
the first line of a fence do not depend on what is held. So lines that leave no fence open are
gathered by themselves, whatever follows them, as long as it does not begin with a line of text.
-/

namespace Questionnaire
open Text

def isProse (line : List Char) : Bool :=
  !isFence line && (headingTitle? line).isNone && !allBlank line

theorem isProse_iff {line : List Char} :
    isProse line = true ↔
      isFence line = false ∧ headingTitle? line = none ∧ allBlank line = false := by
  simp [isProse, and_assoc]

theorem ne_nil_of_isFence {line : List Char} (h : isFence line = true) : line ≠ [] := by
  rintro rfl
  cases h

theorem isFence_of_allBlank {line : List Char} (h : allBlank line = true) :
    isFence line = false := by
  have none : trimStart line = [] := List.dropWhile_eq_nil_iff.mpr (List.all_eq_true.mp h)
  rw [isFence, none]

/-- A heading starts with a hash. -/
theorem head?_of_headingTitle? {line title : List Char} (h : headingTitle? line = some title) :
    line.head? = some '#' := by
  cases line with
  | nil => cases h
  | cons c rest =>
    by_contra other
    have level : (c :: rest).takeWhile (· = '#') = [] :=
      List.takeWhile_cons_of_neg (by simpa using other)
    simp [headingTitle?, level] at h

theorem isFence_of_headingTitle? {line title : List Char} (h : headingTitle? line = some title) :
    isFence line = false := by
  obtain ⟨rest, rfl⟩ := List.head?_eq_some_iff.mp (head?_of_headingTitle? h)
  have start : trimStart ('#' :: rest) = '#' :: rest := List.dropWhile_cons_of_neg (by decide)
  rw [isFence, start]
  rcases rest with _ | ⟨_, _ | _⟩ <;> simp

theorem headingTitle?_of_allBlank {line : List Char} (h : allBlank line = true) :
    headingTitle? line = none := by
  cases read : headingTitle? line with
  | none => rfl
  | some title =>
    obtain ⟨rest, rfl⟩ := List.head?_eq_some_iff.mp (head?_of_headingTitle? read)
    have blank : isBlank '#' = true := List.all_eq_true.mp h '#' (by simp)
    exact absurd blank (by decide)

theorem isProse_of_allBlank {line : List Char} (h : allBlank line = true) :
    isProse line = false := by
  simp [isProse, h]

theorem isProse_of_headingTitle? {line title : List Char} (h : headingTitle? line = some title) :
    isProse line = false := by
  simp [isProse, h]

namespace Passage

theorem ofLines_of_ne_nil {lines : List (List Char)} (h : lines ≠ []) :
    ofLines lines = [.paragraph lines] := by
  cases lines with
  | nil => exact absurd rfl h
  | cons line more => rfl

/-! ## Single lines -/

/-- Outside a fence a blank line ends the paragraph under way. -/
theorem gather_blank {gap : List Char} (blank : allBlank gap = true)
    (held rest : List (List Char)) :
    gather false held (gap :: rest) = ofLines held ++ gather false [] rest := by
  rw [gather]
  simp [isFence_of_allBlank blank, headingTitle?_of_allBlank blank, blank]

/-- Outside a fence a heading ends the paragraph under way and is a passage of its own. -/
theorem gather_heading {line title : List Char} (read : headingTitle? line = some title)
    (held rest : List (List Char)) :
    gather false held (line :: rest) =
      ofLines held ++ .heading title line :: gather false [] rest := by
  rw [gather]
  simp [isFence_of_headingTitle? read, read]

/-- What is held becomes a paragraph where the line that comes next is none of text. -/
theorem gather_flush {below : List (List Char)} (stop : ∀ line ∈ below.head?, isProse line = false)
    (held : List (List Char)) :
    gather false held below = ofLines held ++ gather false [] below := by
  cases below with
  | nil => simp [gather, ofLines]
  | cons line rest =>
    have ends : isProse line = false := stop line rfl
    cases marks : isFence line with
    | true =>
      rw [gather, gather]
      simp [marks, ofLines]
    | false =>
      cases read : headingTitle? line with
      | some title =>
        rw [gather_heading read, gather_heading read]
        rfl
      | none =>
        have blank : allBlank line = true := by simpa [isProse, marks, read] using ends
        rw [gather_blank blank, gather_blank blank]
        rfl

/-! ## Runs of lines -/

/-- Lines of text go on the paragraph under way. -/
theorem gather_prose {run : List (List Char)} (prose : ∀ line ∈ run, isProse line = true)
    (held rest : List (List Char)) :
    gather false held (run ++ rest) = gather false (held ++ run) rest := by
  induction run generalizing held with
  | nil => simp
  | cons line run ih =>
    obtain ⟨here, more⟩ := List.forall_mem_cons.mp prose
    obtain ⟨marks, read, blank⟩ := isProse_iff.mp here
    rw [List.cons_append, gather]
    simp [marks, read, blank, ih more]

/-- An open fence goes on over lines that start no fence. -/
theorem gather_inside {inside : List (List Char)} (plain : ∀ line ∈ inside, isFence line = false)
    (held rest : List (List Char)) :
    gather true held (inside ++ rest) = gather true (held ++ inside) rest := by
  induction inside generalizing held with
  | nil => simp
  | cons line inside ih =>
    obtain ⟨here, more⟩ := List.forall_mem_cons.mp plain
    rw [List.cons_append, gather]
    simp [here, ih more]

/-- Behind lines that leave no fence open, what is gathered does not depend on them, unless a line of
text comes next. -/
theorem gather_append {fence : Bool} (held : List (List Char)) {above below : List (List Char)}
    (stop : ∀ line ∈ below.head?, isProse line = false)
    (closed : Even (above.countP isFence) ↔ fence = false) :
    gather fence held (above ++ below) = gather fence held above ++ gather false [] below := by
  -- every fence line turns `fence` over, so its value is the parity of those still to come
  induction above generalizing fence held with
  | nil =>
    have outside : fence = false := closed.mp (by simp)
    rw [outside, List.nil_append, gather_flush stop]
    rfl
  | cons line above ih =>
    rw [List.cons_append, gather, gather]
    cases marks : isFence line with
    | true =>
      rw [List.countP_cons_of_pos marks, Nat.even_add_one] at closed
      cases fence with
      | true =>
        have ended : Even (above.countP isFence) ↔ false = false := by simpa using closed
        simp [ih [] ended]
      | false =>
        have opened : Even (above.countP isFence) ↔ true = false := by simpa using closed
        simp [ih [line] opened]
    | false =>
      rw [List.countP_cons_of_neg (by simp [marks])] at closed
      cases fence with
      | true => simp [ih (held ++ [line]) closed]
      | false =>
        simp only [Bool.false_eq_true, if_false]
        split
        · simp [ih [] closed]
        · split
          · simp [ih [] closed]
          · exact ih (held ++ [line]) closed

end Passage

/-! ## Slides -/

theorem gatherSlides_cons {passage : Passage} (h : ∀ title line, passage ≠ .heading title line)
    (rest : List Passage) :
    gatherSlides (passage :: rest) = (passage :: (gatherSlides rest).1, (gatherSlides rest).2) := by
  cases passage with
  | heading title line => exact absurd rfl (h title line)
  | paragraph lines => rfl
  | fenced lines => rfl

/-- Passages that begin with a heading make slides of their own, whatever comes before them. -/
theorem gatherSlides_append (front : List Passage) {back : List Passage}
    (headed : (gatherSlides back).1 = []) :
    gatherSlides (front ++ back) =
      ((gatherSlides front).1, (gatherSlides front).2 ++ (gatherSlides back).2) := by
  induction front with
  | nil =>
    rw [List.nil_append, gatherSlides, List.nil_append, ← headed]
  | cons passage front ih =>
    cases passage <;> simp [gatherSlides, ih]

end Questionnaire
