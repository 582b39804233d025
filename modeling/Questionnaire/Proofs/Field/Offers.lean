import Questionnaire.Proofs.Field.BareList
import Questionnaire.Proofs.Field.OptionText
import Questionnaire.Proofs.Field.RuleOrder

/-! # Where choices come from

Every kind of element reads its choices in a way of its own. A choice of any element is traced back to
the piece of text that it was read from: a marker with the text behind it, a text between commas, or a
line.
-/

namespace Questionnaire
open Text

/-! ## Pieces of the header line -/

theorem mem_markedChoices_iff {bracket : Bracket} {rhs : List Char} {choice : Choice} :
    choice ∈ markedChoices rhs bracket ↔ ∃ piece ∈ bracket.markedTexts rhs, trim piece.text ≠ [] ∧
      choice = (Choice.ofText (trim piece.text)).withFlags (Flags.ofToken piece.token) := by
  simp only [markedChoices, List.mem_filterMap, MarkedText.choice?]
  refine exists_congr fun piece => and_congr_right fun _ => ?_
  by_cases empty : trim piece.text = []
  · simp [empty]
  · simp only [List.isEmpty_iff, empty, if_false, Option.some_inj, ne_eq, not_false_eq_true, true_and]
    exact eq_comm

def optionTokens (content : List Char) : List (List Char) := (splitAt ',' content).map trim

/-- An option has a value, and it is selected where brackets were taken off. -/
theorem of_inlineOption? {token : List Char} {choice : Choice}
    (h : inlineOption? token = some choice) :
    ∃ text, (valueAndLabel text).1 ≠ [] ∧
      choice = { Choice.ofText text with selected := (unwrap? token).isSome } := by
  cases unwrapped : unwrap? token with
  | some inner =>
    simp only [inlineOption?, unwrapped] at h
    split at h
    · cases h
    · rename_i occupied
      cases h
      exact ⟨inner, by simpa [Choice.ofText] using occupied, rfl⟩
  | none =>
    simp only [inlineOption?, unwrapped] at h
    split at h
    · cases h
    · rename_i occupied
      cases h
      exact ⟨token, by simpa [Choice.ofText] using occupied, rfl⟩

/-! ## Lines of their own -/

/-- The lines of a block select that can be options, those above a closing brace. -/
def optionLines (body : List (List Char)) : List (List Char) :=
  (body.map trim).takeWhile (· ≠ ['}'])

theorem feed_not_mem_inner {bracket : Bracket} {inner : List Char}
    (free : '\n' ∉ bracket.around inner) : '\n' ∉ inner :=
  fun feed => free (by simp [Bracket.around, feed])

theorem feed_not_mem_unwrapped {wrapping : Option Bracket} {text : List Char}
    (free : '\n' ∉ wrap wrapping text) : '\n' ∉ text := by
  cases wrapping with
  | none => exact free
  | some bracket => exact feed_not_mem_inner free

theorem around_of_wrapping {line : List Char} {option : OptionLine} {bracket : Bracket}
    (h : OptionLine.read? line = some option) (wrapping : option.wrapping = some bracket) :
    ∃ inner, line = bracket.around inner := by
  obtain ⟨inner, texts, whole, -⟩ := OptionLine.of_read? h
  rw [wrapping, wrap] at whole
  exact ⟨inner, whole⟩

theorem of_mem_map_trim {body : List (List Char)} (free : ∀ line ∈ body, '\n' ∉ line) :
    ∀ line ∈ body.map trim, trim line = line ∧ '\n' ∉ line := by
  intro line hm
  obtain ⟨raw, hr, rfl⟩ := List.mem_map.mp hm
  exact ⟨trim_trim raw, fun feed => free raw hr (mem_of_mem_trim feed)⟩

theorem mem_of_mem_optionLines {body : List (List Char)} {line : List Char}
    (h : line ∈ optionLines body) : line ∈ body.map trim := (List.takeWhile_sublist _).mem h

theorem mem_blockOptions_iff {body : List (List Char)} {choice : Choice} :
    choice ∈ blockOptions body ↔ ∃ line ∈ optionLines body, ∃ option,
      OptionLine.read? line = some option ∧ choice = option.flagged := by
  have lines : blockOptions body =
      ((optionLines body).filterMap OptionLine.read?).map OptionLine.flagged := rfl
  rw [lines]
  simp only [List.mem_map, List.mem_filterMap]
  constructor
  · rintro ⟨option, ⟨line, hm, read⟩, rfl⟩
    exact ⟨line, hm, option, read, rfl⟩
  · rintro ⟨line, hm, option, read, rfl⟩
    exact ⟨option, ⟨line, hm, read⟩, rfl⟩

/-- A marker in front of a text makes an entry of that text. -/
theorem listEntry?_marked {bracket : Bracket} {token after : List Char} (isToken : IsToken token)
    (free : '\n' ∉ after) (behind : trimStart after ≠ []) :
    listEntry? (bracket.around token ++ after) =
      some ⟨bracket.drawnAs,
        (Choice.ofText (trimStart after)).withFlags (Flags.ofToken token)⟩ := by
  have opened : bracket.around token ++ after =
      bracket.opening :: (token ++ bracket.closing :: after) := by
    simp [Bracket.around]
  rw [opened, listEntry?_opening, markedLine?_token isToken free, if_neg behind]
  rfl

/-- No marker with a text behind it stands in front. -/
def Unmarked (line : List Char) : Prop :=
  ∀ (bracket : Bracket) (token after : List Char), IsToken token →
    line = bracket.around token ++ after → trimStart after = []

/-- Other entries are options in brackets. -/
theorem listEntry?_unmarked {line : List Char} {entry : ListEntry} (unmarked : Unmarked line) :
    listEntry? line = some entry ↔ ∃ option bracket, OptionLine.read? line = some option ∧
      option.wrapping = some bracket ∧ entry = ⟨bracket.drawnAs, option.flagged⟩ := by
  by_cases opened : ∃ (bracket : Bracket) (rest : List Char), line = bracket.opening :: rest
  · obtain ⟨bracket, rest, rfl⟩ := opened
    have noMarker : markedLine? bracket rest = none := by
      by_contra found
      obtain ⟨choice, marked⟩ := Option.ne_none_iff_exists'.mp found
      obtain ⟨token, after, isToken, rfl, behind⟩ := of_markedLine? marked
      exact behind (unmarked bracket token after isToken (by simp [Bracket.around]))
    rw [listEntry?_opening, noMarker]
    constructor
    · intro found
      obtain ⟨choice, inner, rfl⟩ := Option.map_eq_some_iff.mp found
      obtain ⟨option, read, rfl⟩ := Option.map_eq_some_iff.mp inner
      exact ⟨option, bracket, read, OptionLine.wrapping_of_read? read, rfl⟩
    · rintro ⟨option, other, read, wrapping, rfl⟩
      cases (OptionLine.wrapping_of_read? read).symm.trans wrapping
      rw [read]
      rfl
  · constructor
    · intro found
      cases line with
      | nil => cases found
      | cons c rest =>
        obtain ⟨bracket, kind, -⟩ := Option.bind_eq_some_iff.mp found
        exact absurd ⟨bracket, rest, by rw [Bracket.of_ofOpening? kind]⟩ opened
    · rintro ⟨option, bracket, read, wrapping, -⟩
      obtain ⟨inner, rfl⟩ := around_of_wrapping read wrapping
      exact absurd ⟨bracket, _, rfl⟩ opened

theorem marked_or_unmarked (line : List Char) :
    (∃ (bracket : Bracket) (token after : List Char), IsToken token ∧
      line = bracket.around token ++ after ∧ trimStart after ≠ []) ∨ Unmarked line := by
  by_cases marked : ∃ (bracket : Bracket) (token after : List Char), IsToken token ∧
      line = bracket.around token ++ after ∧ trimStart after ≠ []
  · exact .inl marked
  · refine .inr fun bracket token after isToken whole => ?_
    by_contra behind
    exact marked ⟨bracket, token, after, isToken, whole, behind⟩

/-! ## Elements -/

/-- The choices that a right-hand side and the lines below it offer. -/
inductive Offers (rhs : List Char) (body : List (List Char)) : List Choice → Prop
  | set {bracket : Bracket} (leads : bracket.Leads rhs) (noSize : digitsInBrackets? rhs = none) :
      Offers rhs body (markedChoices rhs bracket)
  | inline {inner : List Char} (braces : Rule.inBraces? rhs = some inner) :
      Offers rhs body (inlineOptions inner)
  | block (brace : rhs = ['{']) : Offers rhs body (blockOptions body)
  | list (empty : rhs = []) : Offers rhs body ((listEntries body).map ListEntry.choice)
  | nothing (noSet : ∀ bracket : Bracket, bracket.Leads rhs → digitsInBrackets? rhs ≠ none)
      (noBlock : rhs ≠ ['{']) (noList : rhs ≠ []) : Offers rhs body []

/-- A marker in front leaves no room for braces and for lines below. -/
theorem leads_excludes {bracket : Bracket} {rhs : List Char} (leads : bracket.Leads rhs) :
    Rule.inBraces? rhs = none ∧ rhs ≠ ['{'] ∧ rhs ≠ [] := by
  have first := leads.head?
  have other : rhs.head? ≠ some '{' := by
    rw [first]
    cases bracket <;> decide
  refine ⟨Rule.inBraces?_of_head? other, fun brace => ?_, fun empty => ?_⟩
  · rw [brace] at other
    exact other rfl
  · rw [empty] at first
    cases first

theorem choices_choiceSet (bracket : Bracket) (choices : List Choice) :
    (bracket.choiceSet choices).choices = choices := by
  cases bracket <;> rfl

/-- Where neither a set nor lines below are offered, the rule that applies tells the choices. -/
theorem offers_of_apply {input : RuleInput} {rule : Rule} {element : Element}
    (hm : rule ∈ Rule.table) (given : rule.apply input = .ok (some element))
    (noSet : ∀ bracket : Bracket, ¬ bracket.Leads input.rhs) (noBlock : input.rhs ≠ ['{'])
    (noList : input.rhs ≠ []) : Offers input.rhs input.body element.choices := by
  have kind := Rule.kind_of_apply hm given
  have silent : element.choices = [] → Offers input.rhs input.body element.choices := by
    intro none
    rw [none]
    exact .nothing (fun bracket leads => absurd leads (noSet bracket)) noBlock noList
  simp only [Rule.table, List.mem_cons, List.not_mem_nil, or_false] at hm
  rcases hm with rfl | rfl | rfl | rfl | rfl | rfl | rfl
  · cases element <;> first | exact silent rfl | cases kind
  · cases element <;> first | exact silent rfl | cases kind
  · dsimp only [Rule.radioSet] at given
    rw [if_neg (mt Bracket.leads_iff.mpr (noSet .round))] at given
    cases given
  · dsimp only [Rule.checkboxSet] at given
    rw [if_neg (mt Bracket.leads_iff.mpr (noSet .square))] at given
    cases given
  · obtain ⟨inner, braces, rfl⟩ := Option.map_eq_some_iff.mp (Except.ok.inj given)
    exact .inline braces
  · dsimp only [Rule.blockSelect] at given
    rw [if_neg noBlock] at given
    cases given
  · dsimp only [Rule.bareList] at given
    rw [if_neg (by simpa using noList)] at given
    cases given

theorem textArea_ne_none {input : RuleInput} {digits : List Char}
    (size : digitsInBrackets? input.rhs = some digits) : Rule.textArea input ≠ .ok none := by
  intro none
  rw [Rule.textArea, size] at none
  cases digits with
  | nil => cases none
  | cons c rest =>
    dsimp only at none
    cases value : input.size "row count" (c :: rest) with
    | ok rows => rw [value] at none; cases none
    | error failure => rw [value] at none; cases none

theorem offers_of_firstAnswer {input : RuleInput} {answer : Option Element}
    (h : Rule.firstAnswer Rule.table input = .ok answer) :
    Offers input.rhs input.body (answer.getD .unmatched).choices := by
  cases size : digitsInBrackets? input.rhs with
  | some digits =>
    have decides : Rule.Decides input ⟨"textarea", .textArea, Rule.textArea⟩ Rule.table :=
      .here (textArea_ne_none size)
    have given : Rule.textArea input = .ok answer := decides.firstAnswer_eq.symm.trans h
    cases answer with
    | none => exact absurd given (textArea_ne_none size)
    | some element =>
      have kind := Rule.textArea_kind given
      cases element <;> cases kind
      refine .nothing (by simp [size]) ?_ ?_
      · intro brace
        rw [brace] at size
        cases size
      · intro empty
        rw [empty] at size
        cases size
  | none =>
    by_cases set : ∃ bracket : Bracket, bracket.Leads input.rhs
    · obtain ⟨bracket, leads⟩ := set
      obtain ⟨token, lead⟩ := Option.isSome_iff_exists.mp (Bracket.leads_iff.mp leads)
      cases h.symm.trans (Rule.firstAnswer_set lead size)
      rw [Option.getD_some, choices_choiceSet]
      exact .set leads size
    · rw [not_exists] at set
      by_cases brace : input.rhs = ['{']
      · cases h.symm.trans (Rule.firstAnswer_blockSelect brace)
        exact .block brace
      · by_cases empty : input.rhs = []
        · cases h.symm.trans (Rule.firstAnswer_bareList empty)
          exact .list empty
        · rcases Rule.decides_or_none Rule.table input with ⟨rule, decides⟩ | none
          · have given := decides.firstAnswer_eq.symm.trans h
            cases answer with
            | none => exact absurd given decides.applies
            | some element => exact offers_of_apply decides.mem given set brace empty
          · cases h.symm.trans (Rule.firstAnswer_of_passed none)
            exact .nothing (fun bracket leads => absurd leads (set bracket)) brace empty

theorem offers_of_classify {header : FieldHeader} {body : List String} {options : FieldOptions}
    {element : Element} (h : classify header body options = .ok element) :
    Offers (trim header.rhs.toList) (body.map String.toList) element.choices := by
  let input : RuleInput :=
    { header, rhs := trim header.rhs.toList, body := body.map String.toList, options }
  have answer : classify header body options =
      (Rule.firstAnswer Rule.table input).map fun answer => answer.getD .unmatched := rfl
  rw [answer] at h
  cases answered : Rule.firstAnswer Rule.table input with
  | error failure => rw [answered] at h; cases h
  | ok answer =>
    rw [answered] at h
    cases h
    exact offers_of_firstAnswer answered

end Questionnaire
