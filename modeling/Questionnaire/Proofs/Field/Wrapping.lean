import Questionnaire.Proofs.Field.Offers

/-! # Brackets around an option

Both selects take an option for one in brackets by its first and its last character alone. What stands
between them is not looked at, so that brackets which do not belong together are taken off as well.
-/

namespace Questionnaire
open Text

namespace Bracket

/-- As many brackets of a kind are closed as opened before the text ends. In a text that starts with
such a bracket this one is closed early. -/
def ClosedEarly (bracket : Bracket) (text : List Char) : Prop :=
  ∃ n < text.length, 0 < n ∧
    (text.take n).count bracket.opening = (text.take n).count bracket.closing

instance (bracket : Bracket) (text : List Char) : Decidable (bracket.ClosedEarly text) :=
  inferInstanceAs (Decidable (∃ n < text.length, 0 < n ∧
    (text.take n).count bracket.opening = (text.take n).count bracket.closing))

/-- A bracket that is closed early has a counterpart besides the one at the end. -/
theorem ClosedEarly.closing_mem {bracket : Bracket} {inner : List Char}
    (h : bracket.ClosedEarly (bracket.around inner)) : bracket.closing ∈ inner := by
  obtain ⟨n, short, positive, balanced⟩ := h
  obtain ⟨m, rfl⟩ := Nat.exists_eq_add_of_lt positive
  rw [Nat.zero_add] at short balanced
  have inside : m ≤ inner.length := by
    simp only [around, List.length_append, List.length_cons, List.length_nil] at short
    omega
  have front : (bracket.around inner).take (m + 1) = bracket.opening :: inner.take m := by
    rw [around, List.cons_append, List.take_succ_cons, List.take_append_of_le_length inside]
  rw [front, List.count_cons_self, List.count_cons_of_ne bracket.opening_ne_closing] at balanced
  have closed : bracket.closing ∈ inner.take m := List.count_pos_iff.mp (by omega)
  exact List.mem_of_mem_take closed

theorem ClosedEarly.closing_mem_trim {bracket : Bracket} {inner : List Char}
    (h : bracket.ClosedEarly (bracket.around inner)) : bracket.closing ∈ trim inner :=
  mem_trim h.closing_mem (isBlank_of_isBracket bracket.isBracket_closing)

end Bracket

/-- A text is in brackets that belong together. -/
def Paired (text : List Char) : Prop :=
  ∃ (bracket : Bracket) (inner : List Char), text = bracket.around inner ∧ ¬ bracket.ClosedEarly text

/-! ## Between commas -/

theorem inlineOption?_around (bracket : Bracket) (inner : List Char) :
    inlineOption? (bracket.around inner) =
      if (valueAndLabel (trim inner)).1 = [] then none
      else some { Choice.ofText (trim inner) with selected := true } := by
  simp only [inlineOption?, unwrap?_around, Choice.ofText]
  by_cases empty : (valueAndLabel (trim inner)).1 = [] <;> simp [empty]

theorem around_of_selected {token : List Char} {choice : Choice}
    (h : inlineOption? token = some choice) (selected : choice.selected = true) :
    ∃ (bracket : Bracket) (inner : List Char), token = bracket.around inner := by
  obtain ⟨text, -, rfl⟩ := of_inlineOption? h
  obtain ⟨inner, unwrapped⟩ := Option.isSome_iff_exists.mp selected
  obtain ⟨bracket, held, rfl, -⟩ := of_unwrap? unwrapped
  exact ⟨bracket, held, rfl⟩

theorem exists_inlineOption?_of_closedEarly {bracket : Bracket} {inner : List Char}
    (early : bracket.ClosedEarly (bracket.around inner)) :
    ∃ choice, inlineOption? (bracket.around inner) = some choice ∧ choice.selected = true := by
  have occupied : (valueAndLabel (trim inner)).1 ≠ [] := by
    have inside := early.closing_mem_trim
    rw [Ne, value_eq_nil_iff, trim_trim]
    rintro (empty | arrow)
    · rw [empty] at inside
      cases inside
    · rw [arrow] at inside
      cases bracket <;> revert inside <;> decide
  rw [inlineOption?_around, if_neg occupied]
  exact ⟨_, rfl, rfl⟩

/-- A token in brackets is offered as what stands between them. -/
theorem mem_inlineOptions_of_around {bracket : Bracket} {content inner : List Char}
    (hm : bracket.around inner ∈ optionTokens content) (plain : ¬ HasArrow inner)
    (occupied : trim inner ≠ []) :
    ⟨String.ofList (trim inner), String.ofList (trim inner), true, false⟩ ∈
      inlineOptions content := by
  have texts : valueAndLabel (trim inner) = (trim inner, trim inner) := by
    rw [valueAndLabel_of_not_hasArrow (not_hasArrow_trim plain), trim_trim]
  refine List.mem_filterMap.mpr ⟨_, hm, ?_⟩
  rw [if_neg (by simp [Bracket.around]), inlineOption?_around, texts, if_neg occupied,
    Choice.ofText, texts]

/-! ## On lines of their own -/

theorem exists_read?_of_closedEarly {bracket : Bracket} {inner : List Char} (free : '\n' ∉ inner)
    (early : bracket.ClosedEarly (bracket.around inner)) :
    ∃ option, OptionLine.read? (bracket.around inner) = some option ∧
      option.wrapping = some bracket := by
  obtain ⟨texts, found⟩ := Option.ne_none_iff_exists'.mp
    (optionTexts?_ne_none free (List.ne_nil_of_mem early.closing_mem_trim))
  exact ⟨_, by rw [OptionLine.read?_around, found, Option.map_some], rfl⟩

theorem mem_blockOptions_of_around {bracket : Bracket} {body : List (List Char)} {inner : List Char}
    (hm : bracket.around inner ∈ optionLines body) (free : '\n' ∉ inner) (plain : ¬ HasArrow inner)
    (occupied : trim inner ≠ []) :
    ⟨String.ofList (trim inner), String.ofList (trim inner), bracket = .round, bracket = .square⟩ ∈
      blockOptions body := by
  have read : OptionLine.read? (bracket.around inner) =
      some (OptionLine.ofTexts (some bracket) (trim inner, trim inner)) := by
    rw [OptionLine.read?_around, optionTexts?_of_not_hasArrow free plain occupied, Option.map_some]
  refine mem_blockOptions_iff.mpr ⟨_, hm, _, read, ?_⟩
  cases bracket <;> rfl

/-! ## Both selects -/

theorem not_paired_of_closedEarly {bracket : Bracket} {inner : List Char}
    (early : bracket.ClosedEarly (bracket.around inner)) : ¬ Paired (bracket.around inner) := by
  rintro ⟨other, inner', same, paired⟩
  obtain ⟨rfl, rfl⟩ := Bracket.around_inj same
  exact paired early

/-- The brackets that are taken off an option of an inline select or a block select all belong
together. -/
def TakesOffPairs (content below : List Char) : Prop :=
  (∀ token ∈ optionTokens content, ∀ choice, inlineOption? token = some choice →
    choice.selected = true → Paired token) ∧
  ∀ line ∈ optionLines (lines below), ∀ option, OptionLine.read? line = some option →
    option.wrapping ≠ none → Paired line

/-- No option is written in brackets of which the first one is closed early. -/
def WrittenInPairs (content below : List Char) : Prop :=
  ∀ text ∈ optionTokens content ++ optionLines (lines below),
    ∀ (bracket : Bracket) (inner : List Char), text = bracket.around inner →
      ¬ bracket.ClosedEarly text

theorem takesOffPairs_iff (content below : List Char) :
    TakesOffPairs content below ↔ WrittenInPairs content below := by
  constructor
  · rintro ⟨tokens, ownLines⟩ text hm bracket inner rfl early
    rcases List.mem_append.mp hm with token | line
    · obtain ⟨choice, found, selected⟩ := exists_inlineOption?_of_closedEarly early
      exact not_paired_of_closedEarly early (tokens _ token choice found selected)
    · have free := (of_mem_map_trim (lines_free below) _ (mem_of_mem_optionLines line)).2
      obtain ⟨option, found, wrapping⟩ := exists_read?_of_closedEarly (feed_not_mem_inner free) early
      exact not_paired_of_closedEarly early (ownLines _ line option found (by simp [wrapping]))
  · intro closed
    constructor
    · intro token hm choice found selected
      obtain ⟨bracket, inner, whole⟩ := around_of_selected found selected
      exact ⟨bracket, inner, whole, closed token (List.mem_append_left _ hm) bracket inner whole⟩
    · intro line hm option found wrapped
      obtain ⟨bracket, wrapping⟩ := Option.ne_none_iff_exists'.mp wrapped
      obtain ⟨inner, whole⟩ := around_of_wrapping found wrapping
      exact ⟨bracket, inner, whole, closed line (List.mem_append_right _ hm) bracket inner whole⟩

/-- **Selects go by the first and the last character.** The brackets that they take off all belong
together just where no option is written in brackets that do not. An option in such brackets is offered
as what stands between them, unless an arrow parts that. -/
theorem wrapping_goes_by_ends (content below : List Char) :
    (TakesOffPairs content below ↔ WrittenInPairs content below) ∧
    ∀ (bracket : Bracket) (inner : List Char), bracket.ClosedEarly (bracket.around inner) →
      ¬ HasArrow inner →
        (bracket.around inner ∈ optionTokens content →
          ⟨String.ofList (trim inner), String.ofList (trim inner), true, false⟩ ∈
            inlineOptions content) ∧
        (bracket.around inner ∈ optionLines (lines below) →
          ⟨String.ofList (trim inner), String.ofList (trim inner), bracket = .round,
            bracket = .square⟩ ∈ blockOptions (lines below)) := by
  refine ⟨takesOffPairs_iff content below, ?_⟩
  intro bracket inner early plain
  have occupied : trim inner ≠ [] := List.ne_nil_of_mem early.closing_mem_trim
  constructor
  · intro token
    exact mem_inlineOptions_of_around token plain occupied
  · intro line
    have free := (of_mem_map_trim (lines_free below) _ (mem_of_mem_optionLines line)).2
    exact mem_blockOptions_of_around line (feed_not_mem_inner free) plain occupied

/-- The bracket in front is closed behind three letters, and yet it is taken off with the last one. -/
theorem unrelated_brackets_taken_off :
    Bracket.round.ClosedEarly "(US) dollar (USD)".toList ∧
      inlineOptions "(US) dollar (USD)".toList =
        [⟨"US) dollar (USD", "US) dollar (USD", true, false⟩] ∧
      blockOptions ["(US) dollar (USD)".toList] =
        [⟨"US) dollar (USD", "US) dollar (USD", true, false⟩] := by
  decide +kernel

end Questionnaire
