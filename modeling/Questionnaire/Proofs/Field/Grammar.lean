import Questionnaire.Field.Grammar

/-! # Errors of the grammars

Only a size fails, and its error names the field that is read.
-/

namespace Questionnaire

namespace RuleInput

variable {input : RuleInput} {what : String} {digits : List Char} {failure : Failure}

/-- The error of a size names the field. -/
theorem size_eq_error (h : input.size what digits = .error failure) :
    ∃ reason, failure = .malformedField input.header.id reason := by
  unfold size at h
  split at h
  · cases h
  · cases h; exact ⟨_, rfl⟩

theorem size_bind_eq_ok {make : Nat → Element} {element : Element}
    (h : (input.size what digits >>= fun n => return some (make n) : RuleAnswer) =
      .ok (some element)) : ∃ n, element = make n := by
  cases hs : input.size what digits with
  | ok n =>
    rw [hs] at h
    cases h
    exact ⟨n, rfl⟩
  | error failure => rw [hs] at h; cases h

/-- An element with a size has the error of the size. -/
theorem size_bind_eq_error {make : Nat → Element}
    (h : (input.size what digits >>= fun n => return some (make n) : RuleAnswer) = .error failure) :
    input.size what digits = .error failure := by
  cases size : input.size what digits with
  | ok n => rw [size] at h; cases h
  | error other => rw [size] at h; cases h; rfl

end RuleInput

namespace Rule

variable {input : RuleInput} {failure : Failure}

theorem textArea_eq_error (h : textArea input = .error failure) :
    ∃ digits, digits ≠ [] ∧ digitsInBrackets? input.rhs = some digits ∧
      input.size "row count" digits = .error failure := by
  unfold textArea at h
  split at h
  · cases h
  · cases h
  · rename_i digits occupied read
    exact ⟨digits, occupied, read, RuleInput.size_bind_eq_error h⟩

theorem textInput_eq_error (h : textInput input = .error failure) :
    ∃ digits, digits ≠ [] ∧ 3 ≤ (input.rhs.takeWhile (· = '_')).length ∧
      digitsInBrackets? (input.rhs.dropWhile (· = '_')) = some digits ∧
      input.size "width" digits = .error failure := by
  unfold textInput at h
  split at h
  · cases h
  · rename_i long
    split at h
    · cases h
    · split at h
      · cases h
      · cases h
      · rename_i digits occupied read
        exact ⟨digits, occupied, Nat.le_of_not_lt long, read, RuleInput.size_bind_eq_error h⟩

/-- The rules without a size never fail. -/
theorem apply_eq_error {rule : Rule} (hm : rule ∈ table) (h : rule.apply input = .error failure) :
    textArea input = .error failure ∨ textInput input = .error failure := by
  simp only [table, List.mem_cons, List.not_mem_nil, or_false] at hm
  rcases hm with rfl | rfl | rfl | rfl | rfl | rfl | rfl
  · exact .inl h
  · exact .inr h
  · dsimp only [radioSet] at h; split at h <;> cases h
  · dsimp only [checkboxSet] at h; split at h <;> cases h
  · cases h
  · dsimp only [blockSelect] at h; split at h <;> cases h
  · dsimp only [bareList] at h; split at h <;> cases h

/-- An error of several rules is the error of one of them. -/
theorem firstAnswer_eq_error {rules : List Rule} (h : firstAnswer rules input = .error failure) :
    ∃ rule ∈ rules, rule.apply input = .error failure := by
  induction rules with
  | nil => cases h
  | cons rule rest ih =>
    rw [firstAnswer] at h
    split at h
    · obtain ⟨other, hm, he⟩ := ih h
      exact ⟨other, List.mem_cons_of_mem _ hm, he⟩
    · exact ⟨rule, List.mem_cons_self, h⟩

end Rule

/-- A field that cannot be classified is malformed, and its error names it. -/
theorem classify_eq_error {header : FieldHeader} {body : List String} {options : FieldOptions}
    {failure : Failure} (h : classify header body options = .error failure) :
    ∃ reason, failure = .malformedField header.id reason := by
  unfold classify at h
  dsimp only at h
  cases answered : Rule.firstAnswer Rule.table
      { header, rhs := Text.trim header.rhs.toList, body := body.map String.toList, options } with
  | ok answer => rw [answered] at h; cases h
  | error other =>
    rw [answered] at h
    cases h
    obtain ⟨rule, hm, he⟩ := Rule.firstAnswer_eq_error answered
    rcases Rule.apply_eq_error hm he with area | line
    · obtain ⟨digits, -, -, size⟩ := Rule.textArea_eq_error area
      exact RuleInput.size_eq_error size
    · obtain ⟨digits, -, -, -, size⟩ := Rule.textInput_eq_error line
      exact RuleInput.size_eq_error size

end Questionnaire
