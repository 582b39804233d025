import Questionnaire.Field.Grammar
import Questionnaire.Proofs.Field.Marker
import Questionnaire.Proofs.Text.Cut

/-! # Which rule decides

The rules are told apart by the character that a right-hand side starts with. Two pairs share theirs,
text areas with check boxes and the two selects, and there the rest of the right-hand side decides.
-/

namespace Questionnaire
open Text

/-- The character that right-hand sides of a kind start with; a bare list has no right-hand side. -/
def ElementKind.lead : ElementKind → Option Char
  | .textArea | .checkboxSet => some '['
  | .textInput => some '_'
  | .radioSet => some '('
  | .inlineSelect | .blockSelect => some '{'
  | .bareList | .unmatched => none

def Bracket.choiceSet : Bracket → List Choice → Element
  | .round => .radioSet
  | .square => .checkboxSet

theorem digitsInBrackets?_of_head? {text : List Char} (h : text.head? ≠ some '[') :
    digitsInBrackets? text = none := by
  apply digitsInBrackets?.eq_2
  rintro rest rfl
  exact h rfl

/-- Between brackets a size has digits and blanks only. -/
theorem digitsInBrackets?_of_mem {text : List Char} {c : Char} (hm : c ∈ text)
    (bracket : c ≠ '[' ∧ c ≠ ']') (blank : isBlank c = false) (digit : isDecimalDigit c = false) :
    digitsInBrackets? text = none := by
  by_cases first : text.head? = some '['
  · obtain ⟨rest, rfl⟩ := List.head?_eq_some_iff.mp first
    by_cases last : rest.getLast? = some ']'
    · obtain ⟨inner, rfl⟩ := List.getLast?_eq_some_iff.mp last
      have inside : c ∈ trim inner := mem_trim (by simpa [bracket] using hm) blank
      have refused : ¬ (trim inner).all isDecimalDigit = true := by
        intro digits
        rw [List.all_eq_true.mp digits c inside] at digit
        cases digit
      have failed : (guard ((trim inner).all isDecimalDigit = true) : Option Unit) = none :=
        if_neg refused
      rw [digitsInBrackets?, cutLast_append, Option.bind_eq_bind, Option.bind_some]
      dsimp only
      rw [failed]
      rfl
    · rw [digitsInBrackets?, cutLast, if_neg last]
      rfl
  · exact digitsInBrackets?_of_head? first

namespace Rule

variable {input : RuleInput}

theorem inBraces?_of_head? {text : List Char} (h : text.head? ≠ some '{') :
    inBraces? text = none := by
  apply inBraces?.eq_2
  rintro rest rfl
  exact h rfl

/-- A rule does not apply to a right-hand side that starts with another character. -/
theorem apply_of_head? {rule : Rule} (hm : rule ∈ table)
    (other : input.rhs.head? ≠ rule.kind.lead) : rule.apply input = .ok none := by
  simp only [table, List.mem_cons, List.not_mem_nil, or_false] at hm
  rcases hm with rfl | rfl | rfl | rfl | rfl | rfl | rfl
  · dsimp only [textArea]
    rw [digitsInBrackets?_of_head? other]
  · have none : input.rhs.takeWhile (· = '_') = [] := by
      cases rhs : input.rhs with
      | nil => rfl
      | cons c rest =>
        rw [rhs] at other
        have apart : c ≠ '_' := by simpa [ElementKind.lead] using other
        simp [apart]
    simp [textInput, none]
  · have none : Bracket.round.leadingToken? input.rhs = none := Bracket.leadingToken?_of_head? other
    simp [radioSet, none]
  · have none : Bracket.square.leadingToken? input.rhs = none := Bracket.leadingToken?_of_head? other
    simp [checkboxSet, none]
  · dsimp only [inlineSelect]
    rw [inBraces?_of_head? other, Option.map_none]
  · dsimp only [blockSelect]
    rw [if_neg]
    intro brace
    exact other (by rw [brace]; rfl)
  · dsimp only [bareList]
    rw [if_neg]
    intro empty
    exact other (by rw [List.isEmpty_iff.mp empty]; rfl)

theorem firstAnswer_append {front back : List Rule}
    (passed : ∀ rule ∈ front, rule.apply input = .ok none) :
    firstAnswer (front ++ back) input = firstAnswer back input := by
  induction front with
  | nil => rfl
  | cons rule front ih =>
    obtain ⟨here, others⟩ := List.forall_mem_cons.mp passed
    rw [List.cons_append, firstAnswer, here]
    exact ih others

/-- A rule of the table decides where no rule above it applies. Most of these are ruled out by the
first character. -/
theorem firstAnswer_table {rule : Rule} {element : Element} (n : Nat)
    (position : table[n]? = some rule)
    (passed : ∀ other ∈ table.take n,
      input.rhs.head? ≠ other.kind.lead ∨ other.apply input = .ok none)
    (h : rule.apply input = .ok (some element)) :
    firstAnswer table input = .ok (some element) := by
  have above : ∀ other ∈ table.take n, other.apply input = .ok none := by
    intro other hm
    rcases passed other hm with head | none
    · exact apply_of_head? (List.mem_of_mem_take hm) head
    · exact none
  obtain ⟨inside, rfl⟩ := List.getElem?_eq_some_iff.mp position
  have parts : table = table.take n ++ table[n] :: table.drop (n + 1) := by
    rw [List.getElem_cons_drop, List.take_append_drop]
  rw [parts, firstAnswer_append above, firstAnswer, h]

/-! ## Each kind of choices -/

theorem firstAnswer_set {bracket : Bracket} {token : List Char}
    (lead : bracket.leadingToken? input.rhs = some token)
    (noRows : digitsInBrackets? input.rhs = none) :
    firstAnswer table input =
      .ok (some (bracket.choiceSet (markedChoices input.rhs bracket))) := by
  have first : input.rhs.head? = some bracket.opening := by
    by_contra other
    rw [Bracket.leadingToken?_of_head? other] at lead
    cases lead
  have noArea : textArea input = .ok none := by
    dsimp only [textArea]
    rw [noRows]
  cases bracket with
  | round =>
    refine firstAnswer_table 2 rfl ?_ (by simp [radioSet, lead, Bracket.choiceSet])
    intro other hm
    left
    rw [first]
    revert other
    decide
  | square =>
    refine firstAnswer_table 3 rfl ?_ (by simp [checkboxSet, lead, Bracket.choiceSet])
    intro other hm
    simp only [table, List.take_succ_cons, List.take_zero, List.mem_cons, List.not_mem_nil,
      or_false] at hm
    rcases hm with rfl | others
    · exact .inr noArea
    · left
      rw [first]
      rcases others with rfl | rfl <;> decide

theorem firstAnswer_inlineSelect {inner : List Char} (braces : inBraces? input.rhs = some inner) :
    firstAnswer table input = .ok (some (.inlineSelect (inlineOptions inner))) := by
  have first : input.rhs.head? = some '{' := by
    by_contra other
    rw [inBraces?_of_head? other] at braces
    cases braces
  refine firstAnswer_table 4 rfl ?_ (by simp [inlineSelect, braces])
  intro other hm
  left
  rw [first]
  revert other
  decide

theorem firstAnswer_blockSelect (brace : input.rhs = ['{']) :
    firstAnswer table input = .ok (some (.blockSelect (blockOptions input.body))) := by
  have noInline : inlineSelect input = .ok none := by rw [inlineSelect, brace]; rfl
  refine firstAnswer_table 5 rfl ?_ (by simp [blockSelect, brace])
  intro other hm
  simp only [table, List.take_succ_cons, List.take_zero, List.mem_cons, List.not_mem_nil,
    or_false] at hm
  rcases hm with rfl | rfl | rfl | rfl | rfl
  case inr.inr.inr.inr => exact .inr noInline
  all_goals
    left
    rw [brace]
    decide

theorem firstAnswer_bareList (empty : input.rhs = []) :
    firstAnswer table input = .ok (some (.bareList (listEntries input.body))) := by
  refine firstAnswer_table 6 rfl ?_ (by simp [bareList, empty])
  intro other hm
  left
  rw [empty]
  revert other
  decide

end Rule
end Questionnaire
