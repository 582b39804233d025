import Mathlib.Data.List.Nodup
import Mathlib.Data.List.Perm.Subperm
import Questionnaire.Document.Scope
import Questionnaire.Proofs.Text.LowerCase

/-! # Scopes are all different and hold no underscore

Of one more name than are in use, one is free, so the search for a number finds a free name. No
alphanumeric character has an underscore in its lower case, so an underscore behind a scope is where
the scope ends.
-/

namespace Questionnaire
open Text

/-! ## No underscore -/

namespace Text

theorem underscore_not_mem_lowerChar {c : Char} (h : c ≠ '_') : '_' ∉ lowerChar c := by
  intro hm
  have none : CaseRun.sources caseRuns '_'.toNat = [] := by decide +kernel
  have origin := mem_lowerChar hm (by decide)
  rw [none] at origin
  simp [h] at origin

theorem ne_underscore_of_isAlphanumeric {c : Char} (h : isAlphanumeric c = true) : c ≠ '_' := by
  rintro rfl
  revert h
  decide +kernel

end Text

theorem underscore_not_mem_slugTail (gap : Bool) (text : List Char) :
    '_' ∉ slugTail gap text := by
  induction text generalizing gap with
  | nil => simp [slugTail]
  | cons c rest ih =>
    rw [slugTail]
    split
    · rename_i alphanumeric
      have hc := underscore_not_mem_lowerChar (ne_underscore_of_isAlphanumeric alphanumeric)
      cases gap <;> simp [hc, ih]
    · exact ih true

theorem underscore_not_mem_slugChars (text : List Char) : '_' ∉ slugChars text := by
  induction text with
  | nil => simp [slugChars]
  | cons c rest ih =>
    rw [slugChars]
    split
    · rename_i alphanumeric
      have hc := underscore_not_mem_lowerChar (ne_underscore_of_isAlphanumeric alphanumeric)
      simp [hc, underscore_not_mem_slugTail]
    · exact ih

/-- A slug holds no underscore, whatever its title. -/
theorem underscore_not_mem_slugify (title : String) : '_' ∉ (slugify title).toList := by
  have none := underscore_not_mem_slugChars title.toList
  unfold slugify
  split
  · decide
  · rw [String.toList_ofList]
    exact none

theorem underscore_not_mem_numberedSlug {slug : String} (h : '_' ∉ slug.toList) (n : Nat) :
    '_' ∉ (numberedSlug slug n).toList := by
  simp [numberedSlug, h]

/-! ## No scope twice -/

theorem numberedSlug_injective (slug : String) {m n : Nat}
    (h : numberedSlug slug m = numberedSlug slug n) : m = n := by
  have digits := congrArg String.toList h
  simp only [numberedSlug, String.toList_append, Nat.toString_eq_ofList_toDigits,
    String.toList_ofList] at digits
  have numbers := congrArg (fun ds => Nat.ofDigitChars 10 ds 0) (List.append_cancel_left digits)
  simpa using numbers

namespace Scopes

/-- A search that ends with a name in use has passed over names in use alone. -/
theorem mem_of_seekNumber_mem {used : List String} {slug : String} {tries n : Nat}
    (h : numberedSlug slug (seekNumber used slug tries n) ∈ used) :
    ∀ i ≤ tries, numberedSlug slug (n + i) ∈ used := by
  induction tries generalizing n with
  | zero =>
    intro i hi
    rw [Nat.le_zero.mp hi]
    exact h
  | succ tries ih =>
    rw [seekNumber] at h
    split at h
    · rename_i taken
      intro i hi
      cases i with
      | zero => simpa using taken
      | succ i =>
        have := ih h i (by omega)
        rwa [Nat.add_assoc, Nat.add_comm 1] at this
    · rename_i free
      exact absurd (List.contains_iff_mem.mpr h) free

/-- As many tries as names are in use find a name that is not. -/
theorem seekNumber_fresh (used : List String) (slug : String) (n : Nat) :
    numberedSlug slug (seekNumber used slug used.length n) ∉ used := by
  intro h
  have taken := mem_of_seekNumber_mem h
  let names := (List.range (used.length + 1)).map fun i => numberedSlug slug (n + i)
  have distinct : names.Nodup := List.nodup_range.map fun i j he => by
    have := numberedSlug_injective slug he
    omega
  have inside : names ⊆ used := by
    intro name hm
    obtain ⟨i, hi, rfl⟩ := List.mem_map.mp hm
    exact taken i (by have := List.mem_range.mp hi; omega)
  have := (List.subperm_of_subset distinct inside).length_le
  simp only [names, List.length_map, List.length_range] at this
  omega

/-- A scope is given out once: it is new, and from then on it is in use. -/
theorem allot_fresh (scopes : Scopes) (title : String) :
    (scopes.allot title).1 ∉ scopes.used ∧
      (scopes.allot title).2.used = (scopes.allot title).1 :: scopes.used := by
  unfold allot
  dsimp only
  split
  · exact ⟨seekNumber_fresh _ _ _, rfl⟩
  · rename_i free
    exact ⟨fun hm => free (List.contains_iff_mem.mpr hm), rfl⟩

theorem underscore_not_mem_allot (scopes : Scopes) (title : String) :
    '_' ∉ (scopes.allot title).1.toList := by
  unfold allot
  dsimp only
  split
  · exact underscore_not_mem_numberedSlug (underscore_not_mem_slugify title) _
  · exact underscore_not_mem_slugify title

end Scopes
end Questionnaire
