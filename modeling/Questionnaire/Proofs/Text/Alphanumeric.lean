import Mathlib.Data.List.Chain
import Questionnaire.Proofs.Text.LowerCase
import Questionnaire.Text.Word

/-! # Lower case keeps letters and digits

But for the dotted capital I, whose lower case ends in a combining dot, the lower case of an
alphanumeric character is one alphanumeric character, which is its own lower case. This is settled on
the tables, a whole run of capital letters at a time.
-/

namespace Questionnaire.Text

/-! ## Looking up tables -/

namespace CodeRange

def Ascending (table : List CodeRange) : Prop :=
  table.IsChain fun one other => one.first ≤ other.first

instance (table : List CodeRange) : Decidable (Ascending table) :=
  inferInstanceAs (Decidable (table.IsChain _))

theorem Ascending.first_le {range : CodeRange} {rest : List CodeRange}
    (h : Ascending (range :: rest)) : ∀ other ∈ rest, range.first ≤ other.first := by
  have trans : Trans (fun one other : CodeRange => one.first ≤ other.first)
      (fun one other : CodeRange => one.first ≤ other.first)
      (fun one other : CodeRange => one.first ≤ other.first) := ⟨Nat.le_trans⟩
  exact fun other hm => List.rel_of_pairwise_cons (List.isChain_iff_pairwise.mp h) hm

theorem covers_iff {table : List CodeRange} (ascending : Ascending table) {code : Nat} :
    covers table code = true ↔ ∃ range ∈ table, range.first ≤ code ∧ code ≤ range.last := by
  induction table with
  | nil => simp [covers]
  | cons range rest ih =>
    rw [covers]
    split
    · rename_i early
      simp only [Bool.false_eq_true, false_iff, List.mem_cons, not_exists, not_and]
      rintro other (rfl | hm) first
      · omega
      · have := ascending.first_le other hm
        omega
    · rename_i reached
      rw [Bool.or_eq_true, decide_eq_true_eq, ih ascending.tail, List.exists_mem_cons_iff]
      have : range.first ≤ code := Nat.le_of_not_lt reached
      simp [this]

def includes (table : List CodeRange) (first last : Nat) : Bool :=
  table.any fun range => Nat.ble range.first first && Nat.ble last range.last

theorem covers_of_includes {table : List CodeRange} (ascending : Ascending table)
    {first last code : Nat} (h : includes table first last = true) (lower : first ≤ code)
    (upper : code ≤ last) : covers table code = true := by
  obtain ⟨range, hm, inside⟩ := List.any_eq_true.mp h
  rw [Bool.and_eq_true, Nat.ble_eq, Nat.ble_eq] at inside
  exact (covers_iff ascending).mpr ⟨range, hm, by omega, by omega⟩

end CodeRange

def areLetters (first last : Nat) : Bool :=
  CodeRange.includes alphabeticRanges first last || CodeRange.includes recentLetterRanges first last

theorem isAlphanumeric_of_areLetters {first last : Nat} {c : Char}
    (h : areLetters first last = true) (lower : first ≤ c.toNat) (upper : c.toNat ≤ last) :
    isAlphanumeric c = true := by
  have alphabetic : CodeRange.Ascending alphabeticRanges := by decide +kernel
  have recent : CodeRange.Ascending recentLetterRanges := by decide +kernel
  rw [isAlphanumeric, Bool.or_eq_true, Bool.or_eq_true]
  rcases Bool.or_eq_true_iff.mp h with old | new
  · exact .inl (.inl (CodeRange.covers_of_includes alphabetic old lower upper))
  · exact .inl (.inr (CodeRange.covers_of_includes recent new lower upper))

/-! ## Runs of capital letters -/

namespace CaseRun

structure Maps (run : CaseRun) (code : Nat) : Prop where
  first_le : run.first ≤ code
  le_last : code ≤ run.last
  aligned : (code - run.first) % run.step = 0

theorem maps_of_find? {runs : List CaseRun} {code : Nat} {run : CaseRun}
    (h : find? runs code = some run) : run ∈ runs ∧ run.Maps code := by
  induction runs with
  | nil => cases h
  | cons first rest ih =>
    rw [find?] at h
    split at h
    · cases h
    · split at h
      · rename_i reached inside
        simp only [Bool.and_eq_true, decide_eq_true_eq, beq_iff_eq] at inside
        cases h
        exact ⟨List.mem_cons_self, Nat.le_of_not_lt reached, inside.1, inside.2⟩
      · obtain ⟨hm, maps⟩ := ih h
        exact ⟨List.mem_cons_of_mem _ hm, maps⟩

def lowFirst (run : CaseRun) : Nat := (run.first + run.shift).toNat

def lowLast (run : CaseRun) : Nat := (run.last + run.shift).toNat

/-- Whether a run goes over every second code point only. -/
def isSparse (run : CaseRun) : Bool := Nat.beq run.step 2 || Nat.beq run.first run.last

/-- Whether a run maps to no code point that another one maps: the other one lies before or behind,
or the two take turns. -/
def avoids (run other : CaseRun) : Bool :=
  !(Nat.ble other.first run.lowLast && Nat.ble run.lowFirst other.last) ||
    (run.isSparse && other.isSparse && Nat.beq ((run.lowFirst + other.first) % 2) 1)

def givesLetters (run : CaseRun) : Bool :=
  areLetters run.lowFirst run.lowLast ||
    (List.range' run.lowFirst ((run.last - run.first) / run.step + 1) run.step).all fun code =>
      areLetters code code

def givesChars (run : CaseRun) : Bool :=
  decide (0 ≤ run.first + run.shift) &&
    (Nat.blt run.lowLast 0xD800 || (Nat.blt 0xDFFF run.lowFirst && Nat.blt run.lowLast 0x110000))

/-- Every run maps to letters that no run maps. -/
theorem caseRuns_settle : ∀ run ∈ caseRuns,
    (run.givesChars && run.givesLetters && caseRuns.all run.avoids) = true := by
  decide +kernel

def target (run : CaseRun) (code : Nat) : Nat := (code + run.shift).toNat

section

variable {run other : CaseRun} {code : Nat}

theorem target_eq (chars : run.givesChars = true) (maps : run.Maps code) :
    run.target code = run.lowFirst + (code - run.first) ∧ run.target code ≤ run.lowLast := by
  obtain ⟨first, last, -⟩ := maps
  simp only [givesChars, Bool.and_eq_true, decide_eq_true_eq] at chars
  unfold target lowFirst lowLast
  omega

theorem toNat_target (chars : run.givesChars = true) (maps : run.Maps code) :
    (Char.ofNat (run.target code)).toNat = run.target code := by
  obtain ⟨start, stop⟩ := target_eq chars maps
  simp only [givesChars, Bool.and_eq_true, Bool.or_eq_true, decide_eq_true_eq, Nat.blt_eq] at chars
  have valid : (run.target code).isValidChar := by
    unfold Nat.isValidChar
    omega
  rw [Char.ofNat, dif_pos valid]
  rfl

theorem isAlphanumeric_target (chars : run.givesChars = true) (letters : run.givesLetters = true)
    (maps : run.Maps code) : isAlphanumeric (Char.ofNat (run.target code)) = true := by
  have same := toNat_target chars maps
  obtain ⟨start, stop⟩ := target_eq chars maps
  rcases Bool.or_eq_true_iff.mp letters with together | single
  · exact isAlphanumeric_of_areLetters together (by omega) (by omega)
  · have hm : run.target code ∈
        List.range' run.lowFirst ((run.last - run.first) / run.step + 1) run.step := by
      refine List.mem_range'.mpr ⟨(code - run.first) / run.step, ?_, ?_⟩
      · exact Nat.lt_succ_of_le (Nat.div_le_div_right (Nat.sub_le_sub_right maps.le_last run.first))
      · rw [start, Nat.mul_div_cancel' (Nat.dvd_of_mod_eq_zero maps.aligned)]
    have letter := List.all_eq_true.mp single _ hm
    exact isAlphanumeric_of_areLetters letter (by omega) (by omega)

theorem even_of_isSparse (sparse : run.isSparse = true) (maps : run.Maps code) :
    (code - run.first) % 2 = 0 := by
  obtain ⟨first, last, aligned⟩ := maps
  rcases Bool.or_eq_true_iff.mp sparse with two | single
  · rwa [Nat.eq_of_beq_eq_true two] at aligned
  · have := Nat.eq_of_beq_eq_true single
    omega

theorem not_maps_target (chars : run.givesChars = true) (apart : run.avoids other = true)
    (maps : run.Maps code) : ¬ other.Maps (run.target code) := by
  intro maps'
  obtain ⟨start, stop⟩ := target_eq chars maps
  have first' := maps'.first_le
  have last' := maps'.le_last
  rcases Bool.or_eq_true_iff.mp apart with outside | turns
  · have meets : (Nat.ble other.first run.lowLast && Nat.ble run.lowFirst other.last) = true := by
      rw [Bool.and_eq_true, Nat.ble_eq, Nat.ble_eq]
      omega
    rw [meets] at outside
    cases outside
  · simp only [Bool.and_eq_true, Nat.beq_eq] at turns
    have even := even_of_isSparse turns.1.1 maps
    have even' := even_of_isSparse turns.1.2 maps'
    omega

end

end CaseRun

/-- **Lower case keeps letters and digits.** But for the dotted capital I, the lower case of an
alphanumeric character is one such character, and lower case leaves it as it is. -/
theorem lowerChar_of_isAlphanumeric {c : Char} (h : isAlphanumeric c = true) (other : c ≠ '\u0130') :
    ∃ d, lowerChar c = [d] ∧ isAlphanumeric d = true ∧ lowerChar d = [d] := by
  cases found : CaseRun.find? caseRuns c.toNat with
  | none =>
    have stays : lowerChar c = [c] := by simp [lowerChar, other, found]
    exact ⟨c, stays, h, stays⟩
  | some run =>
    obtain ⟨hm, maps⟩ := CaseRun.maps_of_find? found
    have settles := CaseRun.caseRuns_settle run hm
    simp only [Bool.and_eq_true, List.all_eq_true] at settles
    obtain ⟨⟨chars, letters⟩, apart⟩ := settles
    have same := CaseRun.toNat_target chars maps
    refine ⟨Char.ofNat (run.target c.toNat), by simp [lowerChar, other, found, CaseRun.target],
      CaseRun.isAlphanumeric_target chars letters maps, ?_⟩
    have free : CaseRun.find? caseRuns (run.target c.toNat) = none := by
      cases again : CaseRun.find? caseRuns (run.target c.toNat) with
      | none => rfl
      | some next =>
        obtain ⟨hn, maps'⟩ := CaseRun.maps_of_find? again
        exact absurd maps' (CaseRun.not_maps_target chars (apart next hn) maps)
    have plain : Char.ofNat (run.target c.toNat) ≠ '\u0130' := by
      intro dotted
      have none : CaseRun.sources caseRuns '\u0130'.toNat = [] := by decide +kernel
      have hs := CaseRun.mem_sources hm maps.first_le maps.le_last (same.symm.trans
        (congrArg Char.toNat dotted)) (by decide)
      rw [none] at hs
      cases hs
    simp [lowerChar, plain, same, free]

end Questionnaire.Text
