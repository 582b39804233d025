import Questionnaire.Proofs.Field.RuleOrder
import Questionnaire.Proofs.Text.Numeral

/-! # Sizes of text fields

A size is written in digits of any script, but only ASCII digits that make a number of 32 bits are
one. All other digits fail, and nothing else does: no later rule gets to see a right-hand side whose
size cannot be used.
-/

namespace Questionnaire
open Text

inductive Dimension where
  /-- The rows of a text area. -/
  | rows
  /-- The width of a line of text. -/
  | width
deriving DecidableEq, Repr

namespace Dimension

def element : Dimension → Nat → Element
  | rows, n => .textArea n
  | width, n => .textInput (some n)

/-- What stands before the brackets: nothing, or three underscores and more. -/
inductive Lead : Dimension → List Char → Prop
  | rows : Lead .rows []
  | width {n : Nat} (long : 3 ≤ n) : Lead .width (List.replicate n '_')

end Dimension

/-- Digits in square brackets, if any, with blanks on either side. -/
def InSquareBrackets (digits text : List Char) : Prop :=
  ∃ before after, (∀ c ∈ before, isBlank c = true) ∧ (∀ c ∈ after, isBlank c = true) ∧
    text = '[' :: (before ++ digits ++ after) ++ [']']

structure GivesSize (dimension : Dimension) (digits rhs : List Char) : Prop where
  occupied : digits ≠ []
  digit : ∀ c ∈ digits, isDecimalDigit c = true
  written : ∃ lead text, dimension.Lead lead ∧ InSquareBrackets digits text ∧ rhs = lead ++ text

/-- Digits that are no number of 32 bits: one of them is of another script, or the number is too
large. -/
def Unusable (digits : List Char) : Prop :=
  (∃ c ∈ digits, c.isDigit = false) ∨ maxWord32 < Nat.ofDigitChars 10 digits 0

/-! ## Brackets -/

theorem isBlank_of_isDecimalDigit {c : Char} (h : isDecimalDigit c = true) : isBlank c = false :=
  isBlank_of_isWord (by simp [isWord, h])

theorem digitsInBrackets?_eq_some_iff {text digits : List Char} :
    digitsInBrackets? text = some digits ↔
      InSquareBrackets digits text ∧ ∀ c ∈ digits, isDecimalDigit c = true := by
  constructor
  · intro h
    by_cases first : text.head? = some '['
    · obtain ⟨rest, rfl⟩ := List.head?_eq_some_iff.mp first
      rw [digitsInBrackets?] at h
      obtain ⟨inner, cut, h⟩ := Option.bind_eq_some_iff.mp h
      obtain ⟨_, passed, h⟩ := Option.bind_eq_some_iff.mp h
      obtain ⟨before, after, whole, blank, blank', -⟩ := exists_trim inner
      have same : trim inner = digits := Option.some.inj h
      have all : (trim inner).all isDecimalDigit = true := by
        by_contra other
        rw [guard, if_neg other] at passed
        cases passed
      rw [same] at whole all
      exact ⟨⟨before, after, blank, blank', by rw [cutLast_eq_some cut, ← whole]; rfl⟩,
        List.all_eq_true.mp all⟩
    · rw [digitsInBrackets?_of_head? first] at h
      cases h
  · rintro ⟨⟨before, after, blank, blank', rfl⟩, digit⟩
    have trimmed : trim (before ++ digits ++ after) = digits := by
      rw [trim_append_right blank', trim_append_left blank]
      exact trim_eq_self
        (fun c hc => isBlank_of_isDecimalDigit (digit c (List.mem_of_head? hc)))
        (fun c hc => isBlank_of_isDecimalDigit (digit c (List.mem_of_getLast? hc)))
    have passed : (guard (digits.all isDecimalDigit = true) : Option Unit) = some () :=
      if_pos (List.all_eq_true.mpr digit)
    rw [List.cons_append, digitsInBrackets?, cutLast_append, Option.bind_eq_bind, Option.bind_some]
    dsimp only
    rw [trimmed, passed]
    rfl

/-! ## The two rules with a size -/

namespace RuleInput

variable {input : RuleInput} {what : String} {digits : List Char}

theorem size_eq_ok_iff {n : Nat} (occupied : digits ≠ [])
    (digit : ∀ c ∈ digits, isDecimalDigit c = true) :
    input.size what digits = .ok n ↔ ¬ Unusable digits ∧ n = Nat.ofDigitChars 10 digits 0 := by
  have unsigned : digits.head? ≠ some '+' := by
    intro plus
    exact absurd (digit _ (List.mem_of_head? plus)) (by decide)
  have read := @readNumeral_eq_ok_iff maxWord32 n digits occupied unsigned
  have usable : ¬ Unusable digits ↔
      (∀ c ∈ digits, c.isDigit = true) ∧ Nat.ofDigitChars 10 digits 0 ≤ maxWord32 := by
    simp [Unusable]
  have answer : input.size what digits = .ok n ↔ readNumeral maxWord32 digits = .ok n := by
    unfold size
    cases readNumeral maxWord32 digits <;> simp
  rw [answer, read, usable]
  constructor
  · rintro ⟨ascii, rfl, small⟩
    exact ⟨⟨ascii, small⟩, rfl⟩
  · rintro ⟨⟨ascii, small⟩, rfl⟩
    exact ⟨ascii, rfl, small⟩

theorem size_fails_iff (occupied : digits ≠ []) (digit : ∀ c ∈ digits, isDecimalDigit c = true) :
    (∃ failure, input.size what digits = .error failure) ↔ Unusable digits := by
  have read := fun n => @size_eq_ok_iff input what digits n occupied digit
  cases answer : input.size what digits with
  | ok n => simpa using ((read n).mp answer).1
  | error failure =>
    have unusable : Unusable digits := by
      by_contra usable
      rw [(read _).mpr ⟨usable, rfl⟩] at answer
      cases answer
    simpa using unusable

end RuleInput

namespace Dimension

def rule : Dimension → Rule
  | rows => ⟨"textarea", .textArea, Rule.textArea⟩
  | width => ⟨"text", .textInput, Rule.textInput⟩

def what : Dimension → String
  | rows => "row count"
  | width => "width"

theorem Lead.takeWhile {dimension : Dimension} {lead : List Char} (h : dimension.Lead lead)
    (rest : List Char) :
    (lead ++ '[' :: rest).takeWhile (· = '_') = lead ∧
      (lead ++ '[' :: rest).dropWhile (· = '_') = '[' :: rest := by
  have inside : ∀ c ∈ lead, decide (c = '_') = true := by
    cases h with
    | rows => simp
    | width long => simp
  have stop : ∀ c ∈ ('[' :: rest).head?, decide (c = '_') = false := by simp
  exact ⟨takeWhile_run inside stop, dropWhile_run inside stop⟩

end Dimension

namespace GivesSize

variable {dimension : Dimension} {digits : List Char} {input : RuleInput}

theorem apply_rule (h : GivesSize dimension digits input.rhs) :
    dimension.rule.apply input =
      (input.size dimension.what digits).map fun n => some (dimension.element n) := by
  obtain ⟨lead, text, led, brackets, rhs⟩ := h.written
  obtain ⟨c, rest, occupied⟩ := List.exists_cons_of_ne_nil h.occupied
  have read : digitsInBrackets? text = some digits :=
    digitsInBrackets?_eq_some_iff.mpr ⟨brackets, h.digit⟩
  obtain ⟨before, after, -, -, opened⟩ := brackets
  cases led with
  | rows =>
    have apply : Dimension.rows.rule.apply input = Rule.textArea input := rfl
    have named : Dimension.rows.what = "row count" := rfl
    rw [List.nil_append] at rhs
    rw [apply, named, Rule.textArea, rhs, read, occupied]
    dsimp only
    cases input.size "row count" (c :: rest) <;> rfl
  | @width n long =>
    have apply : Dimension.width.rule.apply input = Rule.textInput input := rfl
    have named : Dimension.width.what = "width" := rfl
    have lines := (Dimension.Lead.width long).takeWhile (before ++ digits ++ after ++ [']'])
    rw [← List.cons_append, ← opened, ← rhs] at lines
    rw [apply, named, Rule.textInput, lines.1, lines.2, if_neg (by simpa using long)]
    rw [opened, List.cons_append] at read ⊢
    dsimp only
    rw [read, occupied]
    dsimp only
    cases input.size "width" (c :: rest) <;> rfl

/-- No rule above the one that reads the size applies. -/
theorem decides (h : GivesSize dimension digits input.rhs) :
    Rule.Decides input dimension.rule Rule.table := by
  have applies : dimension.rule.Applies input := by
    unfold Rule.Applies
    rw [h.apply_rule]
    cases input.size dimension.what digits <;> simp [Except.map]
  obtain ⟨lead, text, led, -, rhs⟩ := h.written
  cases led with
  | rows => exact .here applies
  | @width n long =>
    refine .behind ?_ (.here applies)
    obtain ⟨n, rfl⟩ := Nat.exists_eq_add_of_le' (Nat.one_le_of_lt long)
    have passed := @Rule.apply_of_head? input _ (List.mem_cons_self : _ ∈ Rule.table)
    rw [rhs] at passed
    exact not_not.mpr (passed (by simp [List.replicate_succ, ElementKind.lead]))

theorem firstAnswer_eq (h : GivesSize dimension digits input.rhs) :
    Rule.firstAnswer Rule.table input =
      (input.size dimension.what digits).map fun n => some (dimension.element n) := by
  rw [h.decides.firstAnswer_eq, h.apply_rule]

end GivesSize

/-! ## Only a size fails -/

namespace Rule

variable {input : RuleInput} {failure : Failure}

theorem givesSize_of_textArea (h : textArea input = .error failure) :
    ∃ digits, GivesSize .rows digits input.rhs ∧
      input.size Dimension.rows.what digits = .error failure := by
  obtain ⟨digits, occupied, read, size⟩ := textArea_eq_error h
  obtain ⟨brackets, digit⟩ := digitsInBrackets?_eq_some_iff.mp read
  exact ⟨digits, ⟨occupied, digit, [], input.rhs, .rows, brackets, rfl⟩, size⟩

theorem givesSize_of_textInput (h : textInput input = .error failure) :
    ∃ digits, GivesSize .width digits input.rhs ∧
      input.size Dimension.width.what digits = .error failure := by
  obtain ⟨digits, occupied, long, read, size⟩ := textInput_eq_error h
  obtain ⟨lead, rest, rhs, underscores, stop⟩ := exists_run (fun c => decide (c = '_')) input.rhs
  rw [rhs, takeWhile_run underscores stop] at long
  rw [rhs, dropWhile_run underscores stop] at read
  obtain ⟨brackets, digit⟩ := digitsInBrackets?_eq_some_iff.mp read
  have led : Dimension.Lead .width lead := by
    rw [List.eq_replicate_of_mem fun c hc => of_decide_eq_true (underscores c hc)]
    exact .width long
  exact ⟨digits, ⟨occupied, digit, lead, rest, led, brackets, rhs⟩, size⟩

theorem firstAnswer_fails_iff :
    (∃ failure, firstAnswer table input = .error failure) ↔
      ∃ dimension digits, GivesSize dimension digits input.rhs ∧ Unusable digits := by
  constructor
  · rintro ⟨failure, answered⟩
    obtain ⟨rule, hm, failed⟩ := firstAnswer_eq_error answered
    have gives : ∃ dimension digits, GivesSize dimension digits input.rhs ∧
        input.size dimension.what digits = .error failure := by
      rcases apply_eq_error hm failed with area | line
      · exact ⟨.rows, givesSize_of_textArea area⟩
      · exact ⟨.width, givesSize_of_textInput line⟩
    obtain ⟨dimension, digits, gives, size⟩ := gives
    exact ⟨dimension, digits, gives,
      (RuleInput.size_fails_iff gives.occupied gives.digit).mp ⟨failure, size⟩⟩
  · rintro ⟨dimension, digits, gives, unusable⟩
    obtain ⟨failure, size⟩ := (@RuleInput.size_fails_iff input dimension.what digits gives.occupied
      gives.digit).mpr unusable
    exact ⟨failure, by rw [gives.firstAnswer_eq, size]; rfl⟩

end Rule

/-- A field fails just where its right-hand side gives a size that is no number of 32 bits, and the
error names the field. A size that is one is the size of the element, and blanks in brackets give the
rows that the options say. -/
theorem classify_sizes (header : FieldHeader) (body : List String) (options : FieldOptions) :
    ((∃ failure, classify header body options = .error failure) ↔
      ∃ dimension digits, GivesSize dimension digits (trim header.rhs.toList) ∧ Unusable digits) ∧
    (∀ failure, classify header body options = .error failure →
      ∃ reason, failure = .malformedField header.id reason) ∧
    (∀ dimension digits, GivesSize dimension digits (trim header.rhs.toList) → ¬ Unusable digits →
      classify header body options = .ok (dimension.element (Nat.ofDigitChars 10 digits 0))) ∧
    (InSquareBrackets [] (trim header.rhs.toList) →
      classify header body options = .ok (.textArea options.defaultRows)) := by
  let input : RuleInput :=
    { header, rhs := trim header.rhs.toList, body := body.map String.toList, options }
  have answer : classify header body options =
      (Rule.firstAnswer Rule.table input).map fun answer => answer.getD .unmatched := rfl
  refine ⟨?_, fun failure failed => classify_eq_error failed, ?_, ?_⟩
  · have fails : (∃ failure, classify header body options = .error failure) ↔
        ∃ failure, Rule.firstAnswer Rule.table input = .error failure := by
      rw [answer]
      cases Rule.firstAnswer Rule.table input <;> simp [Except.map]
    rw [fails, Rule.firstAnswer_fails_iff]
  · intro dimension digits gives usable
    have gives' : GivesSize dimension digits input.rhs := gives
    have size : input.size dimension.what digits = .ok (Nat.ofDigitChars 10 digits 0) :=
      (RuleInput.size_eq_ok_iff gives.occupied gives.digit).mpr ⟨usable, rfl⟩
    rw [answer, gives'.firstAnswer_eq, size]
    rfl
  · intro brackets
    have read : digitsInBrackets? input.rhs = some [] :=
      digitsInBrackets?_eq_some_iff.mpr ⟨brackets, by simp⟩
    have area : Rule.textArea input = .ok (some (.textArea options.defaultRows)) := by
      rw [Rule.textArea, read]
    rw [answer, Rule.firstAnswer_table 0 rfl (by simp) area]
    rfl

-- Zeros in front do not count, and a digit of another script is none.
example :
    let field (rhs : String) : FieldHeader := ⟨"quiz_q", "q", "q", false, rhs, "q = " ++ rhs⟩
    classify (field "[ 0004294967295 ]") [] {} = .ok (.textArea 4294967295) ∧
      classify (field "____[007]") [] {} = .ok (.textInput (some 7)) ∧
      (classify (field "[4294967296]") [] {}).isOk = false ∧
      (classify (field "___[\u0667]") [] {}).isOk = false := by
  decide +kernel

end Questionnaire
