import Mathlib.Data.List.Infix
import Questionnaire.Proofs.Text.Lines
import Questionnaire.Proofs.Text.Runs
import Questionnaire.Text.Cut

/-! # Texts on one line

An author puts blanks around a text and writes it on a line of its own; a reader splits the lines and
trims. What is left is the text, provided that it neither starts nor ends with a blank and has no line
feed in it.
-/

namespace Questionnaire.Text

/-- A text on one line with something other than a blank at both ends. -/
structure IsPhrase (text : List Char) : Prop where
  ne_nil : text ≠ []
  trim_eq : trim text = text
  feed_not_mem : '\n' ∉ text

instance (text : List Char) : Decidable (IsPhrase text) :=
  decidable_of_iff (text ≠ [] ∧ trim text = text ∧ '\n' ∉ text)
    ⟨fun h => ⟨h.1, h.2.1, h.2.2⟩, fun h => ⟨h.1, h.2, h.3⟩⟩

/-- Blanks on one line, or nothing. -/
structure IsGap (gap : List Char) : Prop where
  blank : ∀ c ∈ gap, isBlank c = true
  feed_not_mem : '\n' ∉ gap

instance (gap : List Char) : Decidable (IsGap gap) :=
  decidable_of_iff (gap.all isBlank = true ∧ '\n' ∉ gap)
    ⟨fun h => ⟨List.all_eq_true.mp h.1, h.2⟩, fun h => ⟨List.all_eq_true.mpr h.1, h.2⟩⟩

theorem IsPhrase.head_not_blank {text : List Char} (h : IsPhrase text) :
    ∀ c ∈ text.head?, isBlank c = false := by
  obtain ⟨before, after, -, -, -, first, -⟩ := exists_trim text
  rw [h.trim_eq] at first
  intro c hc
  apply first
  rw [Option.mem_def] at hc ⊢
  rw [List.head?_append, hc, Option.some_or]

theorem IsPhrase.getLast_not_blank {text : List Char} (h : IsPhrase text) :
    ∀ c ∈ text.getLast?, isBlank c = false := by
  obtain ⟨before, after, -, -, -, -, last⟩ := exists_trim text
  rwa [h.trim_eq] at last

theorem IsPhrase.enclosed {c d : Char} {text : List Char} (first : isBlank c = false)
    (last : isBlank d = false) (free : '\n' ∉ c :: text ++ [d]) : IsPhrase (c :: text ++ [d]) where
  ne_nil := by simp
  trim_eq := by
    apply trim_eq_self
    · simpa using first
    · rw [List.getLast?_concat]
      simpa using last
  feed_not_mem := free

theorem IsPhrase.append {text gap back : List Char} (h : IsPhrase text) (free : '\n' ∉ gap)
    (h' : IsPhrase back) : IsPhrase (text ++ gap ++ back) where
  ne_nil := by simp [h.ne_nil]
  trim_eq := by
    obtain ⟨c, rest, first⟩ := List.exists_cons_of_ne_nil h.ne_nil
    obtain ⟨d, last⟩ := Option.ne_none_iff_exists'.mp (mt List.getLast?_eq_none_iff.mp h'.ne_nil)
    apply trim_eq_self
    · rw [first]
      simpa [first] using h.head_not_blank
    · rw [List.getLast?_append, last, Option.some_or, ← last]
      exact h'.getLast_not_blank
  feed_not_mem := by simp [h.feed_not_mem, h'.feed_not_mem, free]

theorem IsPhrase.intercalate {gap : List Char} {texts : List (List Char)} (free : '\n' ∉ gap)
    (each : ∀ text ∈ texts, IsPhrase text) (occupied : texts ≠ []) :
    IsPhrase (gap.intercalate texts) := by
  induction texts with
  | nil => exact absurd rfl occupied
  | cons text more ih =>
    obtain ⟨here, others⟩ := List.forall_mem_cons.mp each
    by_cases last : more = []
    · rwa [last, List.intercalate_singleton]
    · rw [List.intercalate_cons_of_ne_nil last]
      exact here.append free (ih others last)

theorem trimStart_space_cons {text : List Char} (first : ∀ c ∈ text.head?, isBlank c = false) :
    trimStart (' ' :: text) = text := @dropWhile_run _ isBlank [' '] text (by simp [isBlank]) first

/-! ## Lines below each other -/

/-- The carriage return that is lost is a blank at the end. -/
theorem trim_dropReturn (line : List Char) : trim (dropReturn line) = trim line := by
  unfold dropReturn
  split
  · rename_i ret
    obtain ⟨front, rfl⟩ := List.getLast?_eq_some_iff.mp ret
    rw [List.dropLast_concat, trim_append_right (by simp [isBlank])]
  · rfl

/-- Joined lines split into the same lines, up to the blanks around them. -/
theorem map_trim_lines_append {front tail : List (List Char)} (free : ∀ line ∈ front, '\n' ∉ line)
    (behind : tail ≠ []) :
    (lines (joinLines (front ++ tail))).map trim =
      front.map trim ++ (lines (joinLines tail)).map trim := by
  induction front with
  | nil => rfl
  | cons line front ih =>
    obtain ⟨here, below⟩ := List.forall_mem_cons.mp free
    have more : front ++ tail ≠ [] := by simp [behind]
    rw [List.cons_append, joinLines.eq_3 _ _ more, lines_append_feed here, List.map_cons,
      trim_dropReturn, ih below, List.map_cons, List.cons_append]

/-- A reader that passes over blank lines finds in joined lines what it finds in each of them. -/
theorem filterMap_trim_lines {β : Type} {read? : List Char → Option β} (blank : read? [] = none)
    {written : List (List Char)} (free : ∀ line ∈ written, '\n' ∉ line) :
    ((lines (joinLines written)).map trim).filterMap read? =
      (written.map trim).filterMap read? := by
  cases written using List.reverseRecOn with
  | nil => rfl
  | append_singleton front last =>
    obtain ⟨before, here⟩ := List.forall_mem_append.mp free
    rw [map_trim_lines_append before (by simp), List.map_append, List.filterMap_append,
      List.filterMap_append]
    congr 1
    by_cases empty : last = []
    · -- an empty line at the very end is no line of the text
      subst empty
      have none : trim [] = [] := rfl
      simp [joinLines, lines, none, blank]
    · rw [joinLines, lines_of_not_mem (here last (by simp)) empty]

/-! ## Arrows -/

def HasArrow (text : List Char) : Prop := ['-', '>'] <:+: text

instance (text : List Char) : Decidable (HasArrow text) :=
  inferInstanceAs (Decidable (['-', '>'] <:+: text))

theorem hasArrow_cons_iff {c : Char} {text : List Char} :
    HasArrow (c :: text) ↔ (c = '-' ∧ text.head? = some '>') ∨ HasArrow text := by
  constructor
  · intro arrow
    rcases List.infix_cons_iff.mp arrow with ⟨back, whole⟩ | inside
    · obtain ⟨rfl, rfl⟩ := List.cons.inj whole
      exact .inl ⟨rfl, rfl⟩
    · exact .inr inside
  · rintro (⟨rfl, first⟩ | inside)
    · obtain ⟨rest, rfl⟩ := List.head?_eq_some_iff.mp first
      exact ⟨[], rest, rfl⟩
    · exact List.infix_cons inside

theorem not_hasArrow_of_cons {c : Char} {text : List Char} (h : ¬ HasArrow (c :: text)) :
    ¬ HasArrow text ∧ ¬ (c = '-' ∧ text.head? = some '>') :=
  ⟨fun inside => h (hasArrow_cons_iff.mpr (.inr inside)),
    fun first => h (hasArrow_cons_iff.mpr (.inl first))⟩

theorem not_hasArrow_of_blank {text : List Char} (blank : ∀ c ∈ text, isBlank c = true) :
    ¬ HasArrow text := by
  intro arrow
  have dash := blank '-' (arrow.subset (by simp))
  revert dash
  decide

theorem not_hasArrow_concat {text : List Char} {c : Char} (h : ¬ HasArrow text) (other : c ≠ '>') :
    ¬ HasArrow (text ++ [c]) := by
  intro arrow
  rcases List.infix_concat_iff.mp arrow with ⟨front, whole⟩ | inside
  · have last := congrArg List.getLast? whole
    rw [List.getLast?_append, List.getLast?_concat] at last
    exact other (Option.some.inj last).symm
  · exact h inside

theorem not_hasArrow_trim {text : List Char} (h : ¬ HasArrow text) : ¬ HasArrow (trim text) := by
  obtain ⟨before, after, whole, -⟩ := exists_trim text
  intro arrow
  exact h (arrow.trans ⟨before, after, whole.symm⟩)

theorem hasArrow_append (before after : List Char) : HasArrow (before ++ '-' :: '>' :: after) :=
  ⟨before, after, by simp⟩

theorem cutAtArrow_cons {c : Char} {rest : List Char} (h : ¬ (c = '-' ∧ rest.head? = some '>')) :
    cutAtArrow (c :: rest) = (cutAtArrow rest).map fun (before, after) => (c :: before, after) := by
  apply cutAtArrow.eq_3
  rintro back rfl rfl
  exact h ⟨rfl, rfl⟩

/-- The first arrow is the one behind a text without an arrow: a dash at the end of that text makes
none with the dash behind it. -/
theorem cutAtArrow_append {before : List Char} (h : ¬ HasArrow before) (after : List Char) :
    cutAtArrow (before ++ '-' :: '>' :: after) = some (before, after) := by
  induction before with
  | nil => rfl
  | cons c before ih =>
    obtain ⟨later, apart⟩ := not_hasArrow_of_cons h
    have apart' : ¬ (c = '-' ∧ (before ++ '-' :: '>' :: after).head? = some '>') := by
      cases before with
      | nil => simp
      | cons d before => exact apart
    rw [List.cons_append, cutAtArrow_cons apart', ih later]
    rfl

theorem cutAtArrow_of_not_hasArrow {text : List Char} (h : ¬ HasArrow text) :
    cutAtArrow text = none := by
  induction text with
  | nil => rfl
  | cons c text ih =>
    obtain ⟨later, apart⟩ := not_hasArrow_of_cons h
    rw [cutAtArrow_cons apart, ih later]
    rfl

/-- A text with an arrow is cut at the first one. -/
theorem exists_cutAtArrow {text : List Char} (h : HasArrow text) :
    ∃ before after, text = before ++ '-' :: '>' :: after ∧ ¬ HasArrow before ∧
      cutAtArrow text = some (before, after) := by
  have found : ∃ before after, text = before ++ '-' :: '>' :: after ∧ ¬ HasArrow before := by
    induction text with
    | nil => cases List.infix_nil.mp h
    | cons c text ih =>
      by_cases here : c = '-' ∧ text.head? = some '>'
      · obtain ⟨rfl, first⟩ := here
        obtain ⟨after, rfl⟩ := List.head?_eq_some_iff.mp first
        exact ⟨[], after, rfl, not_hasArrow_of_blank (by simp)⟩
      · obtain ⟨before, after, rfl, first⟩ := ih ((hasArrow_cons_iff.mp h).resolve_left here)
        refine ⟨c :: before, after, rfl, fun arrow => ?_⟩
        rcases hasArrow_cons_iff.mp arrow with ⟨rfl, tip⟩ | inside
        · exact here ⟨rfl, by rw [List.head?_append, tip, Option.some_or]⟩
        · exact first inside
  obtain ⟨before, after, rfl, first⟩ := found
  exact ⟨before, after, rfl, first, cutAtArrow_append first after⟩

end Questionnaire.Text
