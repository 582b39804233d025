import Questionnaire.Text.Numeral

/-! # Numerals are read exactly

Reading goes on from the number that the digits read so far make, which later digits never make
smaller. So a numeral is refused as soon as it is above the limit and not otherwise, whatever zeros it
starts with.
-/

namespace Questionnaire.Text

theorem digitValue?_eq (c : Char) :
    digitValue? c = if c.isDigit then some (c.toNat - '0'.toNat) else none := by
  have same : c.isDigit = true ↔ '0' ≤ c ∧ c ≤ '9' := by
    rw [Char.isDigit, Bool.and_eq_true, decide_eq_true_eq, decide_eq_true_eq]
    rfl
  simp only [digitValue?, same]

theorem le_ofDigitChars (digits : List Char) (value : Nat) :
    value ≤ Nat.ofDigitChars 10 digits value := by
  induction digits generalizing value with
  | nil => simp
  | cons c rest ih =>
    have next := ih (10 * value + (c.toNat - '0'.toNat))
    rw [Nat.ofDigitChars_cons]
    omega

/-- Reading goes on to the end just where all digits are ASCII ones and the number is within the
limit. -/
theorem readDigits_eq_ok_iff {limit value n : Nat} {digits : List Char} (within : value ≤ limit) :
    readDigits limit value digits = .ok n ↔
      (∀ c ∈ digits, c.isDigit = true) ∧ n = Nat.ofDigitChars 10 digits value ∧ n ≤ limit := by
  induction digits generalizing value with
  | nil =>
    simp only [readDigits, Except.ok.injEq, Nat.ofDigitChars_nil]
    constructor
    · rintro rfl
      simp [within]
    · rintro ⟨-, rfl, -⟩
      rfl
  | cons c rest ih =>
    rw [readDigits, digitValue?_eq]
    cases digit : c.isDigit with
    | false => simp [digit]
    | true =>
      rw [if_pos rfl, Nat.ofDigitChars_cons, List.forall_mem_cons, Nat.mul_comm 10 value]
      dsimp only
      split
      · rename_i above
        constructor
        · intro h
          cases h
        · rintro ⟨-, rfl, small⟩
          have grown := le_ofDigitChars rest (value * 10 + (c.toNat - '0'.toNat))
          omega
      · rename_i below
        rw [ih (Nat.le_of_not_lt below)]
        simp [digit]

/-- **A numeral without a sign is read exactly.** -/
theorem readNumeral_eq_ok_iff {limit n : Nat} {digits : List Char} (occupied : digits ≠ [])
    (unsigned : digits.head? ≠ some '+') :
    readNumeral limit digits = .ok n ↔
      (∀ c ∈ digits, c.isDigit = true) ∧ n = Nat.ofDigitChars 10 digits 0 ∧ n ≤ limit := by
  have plain : readNumeral limit digits = readDigits limit 0 digits := by
    unfold readNumeral
    split
    · exact absurd rfl occupied
    · exact absurd rfl unsigned
    · exact absurd rfl unsigned
    · rfl
  rw [plain, readDigits_eq_ok_iff (Nat.zero_le limit)]

end Questionnaire.Text
