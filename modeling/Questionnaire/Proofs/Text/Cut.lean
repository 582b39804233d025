import Questionnaire.Proofs.Text.Runs
import Questionnaire.Text.Cut

/-! # Cutting undoes joining -/

namespace Questionnaire.Text

theorem afterLead_append (lead text : List Char) : afterLead lead (lead ++ text) = some text := by
  induction lead with
  | nil => rfl
  | cons l lead ih => rw [List.cons_append, afterLead, if_pos rfl, ih]

theorem afterLead_eq_some {lead text rest : List Char} (h : afterLead lead text = some rest) :
    text = lead ++ rest := by
  induction lead generalizing text with
  | nil => exact Option.some.inj h
  | cons l lead ih =>
    cases text with
    | nil => cases h
    | cons c text =>
      rw [afterLead] at h
      split at h
      · rename_i same
        rw [same, ih h, List.cons_append]
      · cases h

theorem cutAt_append {mark : Char} {before : List Char} (h : mark ∉ before) (after : List Char) :
    cutAt mark (before ++ mark :: after) = some (before, after) := by
  induction before with
  | nil => rw [List.nil_append, cutAt, if_pos rfl]
  | cons c before ih =>
    have hc : c ≠ mark := by intro he; exact h (by simp [he])
    have hb : mark ∉ before := by intro hm; exact h (by simp [hm])
    rw [List.cons_append, cutAt, if_neg hc, ih hb, Option.map_some]

theorem cutAt_eq_some {mark : Char} {text before after : List Char}
    (h : cutAt mark text = some (before, after)) :
    text = before ++ mark :: after ∧ mark ∉ before := by
  induction text generalizing before with
  | nil => cases h
  | cons c rest ih =>
    rw [cutAt] at h
    split at h
    · rename_i same
      cases h
      exact ⟨by rw [same, List.nil_append], by simp⟩
    · rename_i other
      obtain ⟨⟨front, back⟩, found, he⟩ := Option.map_eq_some_iff.mp h
      cases he
      obtain ⟨hr, hm⟩ := ih found
      refine ⟨by rw [hr, List.cons_append], ?_⟩
      rw [List.mem_cons, not_or]
      exact ⟨Ne.symm other, hm⟩

theorem cutLast_append (text : List Char) (mark : Char) :
    cutLast mark (text ++ [mark]) = some text := by
  rw [cutLast, if_pos List.getLast?_concat, List.dropLast_concat]

theorem cutLast_eq_some {mark : Char} {text rest : List Char} (h : cutLast mark text = some rest) :
    text = rest ++ [mark] := by
  rw [cutLast] at h
  split at h
  · rename_i last
    obtain ⟨front, rfl⟩ := List.getLast?_eq_some_iff.mp last
    rw [List.dropLast_concat] at h
    cases h
    rfl
  · cases h

theorem splitAt_append {mark : Char} {piece : List Char} (h : mark ∉ piece) (rest : List Char) :
    splitAt mark (piece ++ mark :: rest) = piece :: splitAt mark rest := by
  induction piece with
  | nil => rw [List.nil_append, splitAt, if_pos rfl]
  | cons c piece ih =>
    rw [List.mem_cons, not_or] at h
    rw [List.cons_append, splitAt, if_neg (Ne.symm h.1), ih h.2]

theorem splitAt_of_not_mem {mark : Char} {piece : List Char} (h : mark ∉ piece) :
    splitAt mark piece = [piece] := by
  induction piece with
  | nil => rfl
  | cons c piece ih =>
    rw [List.mem_cons, not_or] at h
    rw [splitAt, if_neg (Ne.symm h.1), ih h.2]

/-- Pieces joined by a mark and blanks are the pieces between the marks, up to the blanks around
them. -/
theorem map_trim_splitAt_intercalate {mark : Char} {gap : List Char} {pieces : List (List Char)}
    (blank : ∀ c ∈ gap, isBlank c = true) (apart : mark ∉ gap)
    (free : ∀ piece ∈ pieces, mark ∉ piece) (occupied : pieces ≠ []) :
    (splitAt mark ((mark :: gap).intercalate pieces)).map trim = pieces.map trim := by
  -- what stands before the first piece grows from nothing to the blanks behind a mark
  suffices general : ∀ lead, (∀ c ∈ lead, isBlank c = true) → mark ∉ lead →
      (splitAt mark (lead ++ (mark :: gap).intercalate pieces)).map trim = pieces.map trim by
    exact general [] (by simp) (by simp)
  induction pieces with
  | nil => exact absurd rfl occupied
  | cons piece more ih =>
    intro lead leadBlank leadApart
    obtain ⟨here, others⟩ := List.forall_mem_cons.mp free
    have front : mark ∉ lead ++ piece := by simp [leadApart, here]
    by_cases last : more = []
    · subst last
      rw [List.intercalate_singleton, splitAt_of_not_mem front, List.map_singleton,
        trim_append_left leadBlank, List.map_singleton]
    · have cut := splitAt_append front (gap ++ (mark :: gap).intercalate more)
      rw [List.intercalate_cons_of_ne_nil last, List.append_assoc, List.cons_append,
        ← List.append_assoc, cut, List.map_cons, trim_append_left leadBlank,
        ih others last gap blank apart, List.map_cons]

end Questionnaire.Text
