import Questionnaire.Text.LowerCase

/-! # Where a lowered character comes from

The lower case of a text is made of the lower cases of its characters, but for the final sigma. Which
characters are lowered to a given one is read off the table of runs: for an ASCII character that is no
letter it is that character alone, and for most letters the capital one besides.
-/

namespace Questionnaire.Text

/-- The run that is found maps the code point. -/
theorem CaseRun.of_find? {runs : List CaseRun} {code : Nat} {run : CaseRun}
    (h : find? runs code = some run) : run ∈ runs ∧ run.first ≤ code ∧ code ≤ run.last := by
  induction runs with
  | nil => cases h
  | cons first rest ih =>
    rw [find?] at h
    split at h
    · cases h
    · split at h
      · rename_i inside
        simp only [Bool.and_eq_true, decide_eq_true_eq] at inside
        cases h
        exact ⟨List.mem_cons_self, by omega, inside.1⟩
      · obtain ⟨hm, bounds⟩ := ih h
        exact ⟨List.mem_cons_of_mem _ hm, bounds⟩

def CaseRun.sources (runs : List CaseRun) (code : Nat) : List Nat :=
  runs.filterMap fun run =>
    let source := (code : Int) - run.shift
    if run.first ≤ source ∧ source ≤ run.last then some source.toNat else none

theorem CaseRun.mem_sources {runs : List CaseRun} {run : CaseRun} {source code : Nat}
    (hm : run ∈ runs) (first : run.first ≤ source) (last : source ≤ run.last)
    (mapped : (source + run.shift).toNat = code) (positive : code ≠ 0) :
    source ∈ sources runs code := by
  refine List.mem_filterMap.mpr ⟨run, hm, ?_⟩
  have back : (code : Int) - run.shift = source := by omega
  simp only [back]
  rw [if_pos (by omega), Int.toNat_natCast]

/-- A number that is no code point is read as the character with the number zero. -/
theorem eq_toNat_of_ofNat_eq {n : Nat} {c : Char} (h : Char.ofNat n = c) (positive : c.toNat ≠ 0) :
    n = c.toNat := by
  by_cases valid : n.isValidChar
  · rw [Char.ofNat, dif_pos valid] at h
    rw [← h]
    rfl
  · rw [Char.ofNat, dif_neg valid] at h
    rw [← h] at positive
    exact absurd rfl positive

/-- A lowered character is the character itself, or what a run maps it to, or part of the lower case
of the dotted capital I. -/
theorem mem_lowerChar {c d : Char} (h : d ∈ lowerChar c) (positive : d.toNat ≠ 0) :
    c = d ∨ c.toNat ∈ CaseRun.sources caseRuns d.toNat ∨ d ∈ ['i', '\u0307'] := by
  unfold lowerChar at h
  split at h
  · exact .inr (.inr h)
  · split at h
    · rename_i run found
      obtain ⟨hm, first, last⟩ := CaseRun.of_find? found
      have mapped := eq_toNat_of_ofNat_eq (List.mem_singleton.mp h).symm positive
      exact .inr (.inl (CaseRun.mem_sources hm first last mapped positive))
    · exact .inl (List.mem_singleton.mp h).symm

theorem equals_mem_lowerChar_iff {c : Char} : '=' ∈ lowerChar c ↔ c = '=' := by
  constructor
  · intro h
    have none : CaseRun.sources caseRuns '='.toNat = [] := by decide +kernel
    have origin := mem_lowerChar h (by decide)
    rw [none] at origin
    simpa using origin
  · rintro rfl
    decide

theorem x_mem_lowerChar_iff {c : Char} : 'x' ∈ lowerChar c ↔ c = 'x' ∨ c = 'X' := by
  constructor
  · intro h
    have capital : CaseRun.sources caseRuns 'x'.toNat = ['X'.toNat] := by decide +kernel
    have origin := mem_lowerChar h (by decide)
    rw [capital, List.mem_singleton, Char.toNat_inj] at origin
    simpa using origin
  · rintro (rfl | rfl) <;> decide

/-- But for the two small sigmas, the neighbours of a character do not matter. -/
theorem mem_lowercase {d : Char} (sigma : d ≠ '\u03C3') (final : d ≠ '\u03C2') (text : List Char) :
    d ∈ lowercase text ↔ ∃ c ∈ text, d ∈ lowerChar c := by
  suffices h : ∀ before, d ∈ lowercaseAfter before text ↔ ∃ c ∈ text, d ∈ lowerChar c from h []
  induction text with
  | nil => simp [lowercaseAfter]
  | cons c rest ih =>
    intro before
    have first : d ∈ (if c = '\u03A3' && startsCased before && !startsCased rest then ['\u03C2']
        else lowerChar c) ↔ d ∈ lowerChar c := by
      split
      · rename_i ends
        have capital : c = '\u03A3' := by
          simp only [Bool.and_eq_true, decide_eq_true_eq] at ends
          exact ends.1.1
        have lowered : lowerChar '\u03A3' = ['\u03C3'] := by decide
        simp [capital, lowered, sigma, final]
      · rfl
    rw [lowercaseAfter, List.mem_append, first, ih]
    simp

end Questionnaire.Text
