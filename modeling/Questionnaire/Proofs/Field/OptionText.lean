import Questionnaire.Proofs.Field.InlineSelect
import Questionnaire.Proofs.Field.OptionLine

/-! # Value and label of an option

Both readers of options part a text at its first arrow. Behind a marker and between commas a side that
is empty takes the text of the other one. On a line of its own an arrow parts nothing unless there is
something on both sides of it, if only a blank, and an arrow that parts nothing stays in the text.
-/

namespace Questionnaire
open Text

/-! ## Between commas -/

theorem valueAndLabel_of_arrow {text before after : List Char}
    (whole : text = before ++ '-' :: '>' :: after) (first : ¬ HasArrow before) :
    valueAndLabel text =
      if trim before = [] then (trim after, trim after)
      else if trim after = [] then (trim before, trim before)
      else (trim before, trim after) := by
  rw [valueAndLabel, whole, cutAtArrow_append first]
  simp only [List.isEmpty_iff]

theorem valueAndLabel_of_not_hasArrow {text : List Char} (h : ¬ HasArrow text) :
    valueAndLabel text = (trim text, trim text) := by
  rw [valueAndLabel, cutAtArrow_of_not_hasArrow h]

theorem valueAndLabel_trimmed (text : List Char) :
    trim (valueAndLabel text).1 = (valueAndLabel text).1 ∧
      trim (valueAndLabel text).2 = (valueAndLabel text).2 := by
  by_cases arrow : HasArrow text
  · obtain ⟨before, after, whole, first, -⟩ := exists_cutAtArrow arrow
    rw [valueAndLabel_of_arrow whole first]
    split_ifs <;> simp [trim_trim]
  · simp [valueAndLabel_of_not_hasArrow arrow, trim_trim]

theorem label_eq_nil_iff (text : List Char) :
    (valueAndLabel text).2 = [] ↔ (valueAndLabel text).1 = [] := by
  by_cases arrow : HasArrow text
  · obtain ⟨before, after, whole, first, -⟩ := exists_cutAtArrow arrow
    rw [valueAndLabel_of_arrow whole first]
    split_ifs <;> simp [*]
  · simp [valueAndLabel_of_not_hasArrow arrow]

theorem trim_eq_arrow_iff {text : List Char} :
    trim text = ['-', '>'] ↔ ∃ before after, text = before ++ '-' :: '>' :: after ∧
      (∀ c ∈ before, isBlank c = true) ∧ ∀ c ∈ after, isBlank c = true := by
  rw [trim_eq_iff (by decide)]
  simp only [List.append_assoc, List.cons_append, List.nil_append]

/-- Nothing is left of a text that is blank or an arrow alone. -/
theorem value_eq_nil_iff (text : List Char) :
    (valueAndLabel text).1 = [] ↔ trim text = [] ∨ trim text = ['-', '>'] := by
  by_cases arrow : HasArrow text
  · obtain ⟨before, after, whole, first, -⟩ := exists_cutAtArrow arrow
    have dash : '-' ∈ text := by simp [whole]
    have occupied : trim text ≠ [] := List.ne_nil_of_mem (mem_trim dash (by decide))
    have bothBlank : (valueAndLabel text).1 = [] ↔ trim before = [] ∧ trim after = [] := by
      rw [valueAndLabel_of_arrow whole first]
      split_ifs <;> simp [*]
    rw [bothBlank, or_iff_right occupied, trim_eq_nil_iff, trim_eq_nil_iff, trim_eq_arrow_iff]
    constructor
    · rintro ⟨blank, blank'⟩
      exact ⟨before, after, whole, blank, blank'⟩
    · rintro ⟨front, back, same, blank, blank'⟩
      -- there is no arrow among the blanks in front, so that both cuts are at the first one
      have cut := cutAtArrow_append (not_hasArrow_of_blank blank) back
      rw [← same, whole, cutAtArrow_append first after] at cut
      obtain ⟨rfl, rfl⟩ := Prod.mk.inj (Option.some.inj cut)
      exact ⟨blank, blank'⟩
  · have other : trim text ≠ ['-', '>'] := by
      intro alone
      obtain ⟨front, back, rfl, -⟩ := trim_eq_arrow_iff.mp alone
      exact arrow (hasArrow_append front back)
    simp [valueAndLabel_of_not_hasArrow arrow, other]

/-! ## On a line of its own -/

theorem optionTexts?_of_parted {text value label : List Char}
    (h : partAtArrow? [] text = some (value, label)) (occupied : value ≠ []) :
    optionTexts? text = some (value, label) := by
  obtain ⟨c, rest, rfl⟩ := List.exists_cons_of_ne_nil occupied
  rw [optionTexts?, h]

/-- A text that is not parted is value and label at once. -/
theorem optionTexts?_alone {text : List Char} (free : '\n' ∉ text)
    (h : ∀ value label, partAtArrow? [] text = some (value, label) → value = []) :
    optionTexts? text = if trim text = [] then none else some (trim text, trim text) := by
  have line : isOneLine text = true := by simpa [isOneLine] using free
  have alone : (if (trim text).isEmpty || !isOneLine text then none
      else some (trim text, trim text)) =
      if trim text = [] then none else some (trim text, trim text) := by
    simp [line]
  unfold optionTexts?
  rcases parted : partAtArrow? [] text with _ | ⟨_ | ⟨c, value⟩, label⟩
  · exact alone
  · exact alone
  · cases h _ _ parted

/-- The first arrow parts a text. Nothing can be parted at an arrow in front of the text. -/
theorem partAtArrow?_of_arrow {c : Char} {before after : List Char}
    (free : '\n' ∉ c :: before ++ '-' :: '>' :: after) (first : ¬ HasArrow before)
    (behind : after ≠ []) :
    partAtArrow? [] (c :: before ++ '-' :: '>' :: after) =
      some (trim (c :: before), trim after) := by
  rw [List.cons_append, List.mem_cons, not_or] at free
  rw [List.cons_append, partAtArrow?_nil_cons,
    partAtArrow?_eq (by simp) (by simpa using free.1) free.2, cutAtArrow_append first,
    Option.bind_some]
  simp [behind]

/-- An arrow that parts a text has something on either side. -/
theorem of_partAtArrow? {text value label : List Char} (free : '\n' ∉ text)
    (h : partAtArrow? [] text = some (value, label)) :
    ∃ c before after, text = c :: before ++ '-' :: '>' :: after ∧ ¬ HasArrow before ∧ after ≠ [] ∧
      value = trim (c :: before) ∧ label = trim after := by
  cases text with
  | nil => cases h
  | cons c rest =>
    rw [List.mem_cons, not_or] at free
    rw [partAtArrow?_nil_cons, partAtArrow?_eq (by simp) (by simpa using free.1) free.2] at h
    by_cases arrow : HasArrow rest
    · obtain ⟨before, after, rfl, first, cut⟩ := exists_cutAtArrow arrow
      rw [cut, Option.bind_some] at h
      dsimp only at h
      split at h
      · cases h
      · rename_i behind
        cases h
        exact ⟨c, before, after, rfl, first, by simpa using behind, by simp, rfl⟩
    · rw [cutAtArrow_of_not_hasArrow arrow] at h
      cases h

/-- An option is a value and a label around an arrow, or the whole text twice. -/
theorem optionTexts?_cases {text : List Char} (free : '\n' ∉ text) :
    (∃ value label, partAtArrow? [] text = some (value, label) ∧ value ≠ [] ∧
      optionTexts? text = some (value, label)) ∨
    optionTexts? text = if trim text = [] then none else some (trim text, trim text) := by
  by_cases parted : ∃ value label, partAtArrow? [] text = some (value, label) ∧ value ≠ []
  · obtain ⟨value, label, found, occupied⟩ := parted
    exact .inl ⟨value, label, found, occupied, optionTexts?_of_parted found occupied⟩
  · refine .inr (optionTexts?_alone free fun value label found => ?_)
    by_contra occupied
    exact parted ⟨value, label, found, occupied⟩

theorem of_optionTexts? {text value label : List Char} (free : '\n' ∉ text)
    (h : optionTexts? text = some (value, label)) :
    value ≠ [] ∧ (partAtArrow? [] text = some (value, label) ∨
      value = trim text ∧ label = trim text) := by
  rcases optionTexts?_cases free with ⟨value', label', found, occupied, texts⟩ | alone
  · cases h.symm.trans texts
    exact ⟨occupied, .inl found⟩
  · rw [alone] at h
    split at h
    · cases h
    · rename_i occupied
      cases h
      exact ⟨occupied, .inr ⟨rfl, rfl⟩⟩

theorem optionTexts?_trimmed {text value label : List Char} (free : '\n' ∉ text)
    (h : optionTexts? text = some (value, label)) : trim value = value ∧ trim label = label := by
  obtain ⟨-, parted | ⟨rfl, rfl⟩⟩ := of_optionTexts? free h
  · obtain ⟨c, before, after, -, -, -, rfl, rfl⟩ := of_partAtArrow? free parted
    exact ⟨trim_trim _, trim_trim _⟩
  · exact ⟨trim_trim _, trim_trim _⟩

theorem optionTexts?_ne_none {text : List Char} (free : '\n' ∉ text) (occupied : trim text ≠ []) :
    optionTexts? text ≠ none := by
  intro none
  rcases optionTexts?_cases free with ⟨value, label, -, -, texts⟩ | alone
  · cases none.symm.trans texts
  · rw [alone, if_neg occupied] at none
    cases none

theorem optionTexts?_of_not_hasArrow {text : List Char} (free : '\n' ∉ text)
    (h : ¬ HasArrow text) (occupied : trim text ≠ []) :
    optionTexts? text = some (trim text, trim text) := by
  have unparted : ∀ value label, partAtArrow? [] text = some (value, label) → value = [] := by
    intro value label parted
    obtain ⟨c, before, after, whole, -⟩ := of_partAtArrow? free parted
    rw [whole] at h
    exact absurd (hasArrow_append _ after) h
  rw [optionTexts?_alone free unparted, if_neg occupied]

/-! ## Both readers -/

/-- The first arrow has nothing on one of its sides. -/
def ArrowAtEdge (text : List Char) : Prop :=
  ∃ before after, text = before ++ '-' :: '>' :: after ∧ ¬ HasArrow before ∧
    (before = [] ∨ after = [])

theorem arrowAtEdge_iff {text : List Char} :
    ArrowAtEdge text ↔ ∃ parts, cutAtArrow text = some parts ∧ (parts.1 = [] ∨ parts.2 = []) := by
  constructor
  · rintro ⟨before, after, rfl, first, side⟩
    exact ⟨_, cutAtArrow_append first after, side⟩
  · rintro ⟨parts, cut, side⟩
    have arrow : HasArrow text := by
      by_contra none
      rw [cutAtArrow_of_not_hasArrow none] at cut
      cases cut
    obtain ⟨before, after, whole, first, same⟩ := exists_cutAtArrow arrow
    cases same.symm.trans cut
    exact ⟨before, after, whole, first, side⟩

instance (text : List Char) : Decidable (ArrowAtEdge text) :=
  decidable_of_iff ((cutAtArrow text).any fun parts => parts.1.isEmpty || parts.2.isEmpty) <| by
    rw [arrowAtEdge_iff]
    simp [Option.any_eq_true]

theorem optionTexts?_eq_valueAndLabel {text : List Char} (phrase : IsPhrase text)
    (inner : ¬ ArrowAtEdge text) : optionTexts? text = some (valueAndLabel text) := by
  by_cases arrow : HasArrow text
  · obtain ⟨before, after, whole, first, -⟩ := exists_cutAtArrow arrow
    have ahead : before ≠ [] := fun empty => inner ⟨before, after, whole, first, .inl empty⟩
    have behind : after ≠ [] := fun empty => inner ⟨before, after, whole, first, .inr empty⟩
    have value : trim before ≠ [] := by
      obtain ⟨c, rest, rfl⟩ := List.exists_cons_of_ne_nil ahead
      refine trim_ne_nil_iff.mpr ⟨c, by simp, phrase.head_not_blank c ?_⟩
      simp [whole]
    have label : trim after ≠ [] := by
      obtain ⟨d, last⟩ := Option.ne_none_iff_exists'.mp (mt List.getLast?_eq_none_iff.mp behind)
      refine trim_ne_nil_iff.mpr ⟨d, List.mem_of_getLast? last, phrase.getLast_not_blank d ?_⟩
      simp [whole, List.getLast?_append, List.getLast?_cons, last]
    rw [valueAndLabel_of_arrow whole first, if_neg value, if_neg label]
    obtain ⟨c, rest, rfl⟩ := List.exists_cons_of_ne_nil ahead
    rw [whole]
    have free := phrase.feed_not_mem
    rw [whole] at free
    exact optionTexts?_of_parted
      (partAtArrow?_of_arrow free (not_hasArrow_of_cons first).1 behind) value
  · have occupied : trim text ≠ [] := by
      rw [phrase.trim_eq]
      exact phrase.ne_nil
    rw [optionTexts?_of_not_hasArrow phrase.feed_not_mem arrow occupied,
      valueAndLabel_of_not_hasArrow arrow]

/-- What remains beside an arrow with an empty side is value and label at once. -/
theorem valueAndLabel_of_side {before after : List Char} (first : ¬ HasArrow before)
    (side : before = [] ∨ after = []) :
    valueAndLabel (before ++ '-' :: '>' :: after) =
      (trim (before ++ after), trim (before ++ after)) := by
  have nothing : trim [] = [] := rfl
  rw [valueAndLabel_of_arrow rfl first]
  rcases side with rfl | rfl
  · rw [if_pos nothing, List.nil_append]
  · rw [if_pos nothing, nothing, List.append_nil]
    split_ifs with blank
    · rw [blank]
    · rfl

/-- An arrow with an empty side parts nothing on a line, and so it stands in front of one that does. -/
theorem ArrowAtEdge.hasArrow_value {value after : List Char}
    (h : ArrowAtEdge (value ++ '-' :: '>' :: after)) (occupied : value ≠ []) (behind : after ≠ []) :
    HasArrow value := by
  obtain ⟨before, rest, whole, first, side⟩ := h
  by_contra none
  have cut := cutAtArrow_append none after
  rw [whole, cutAtArrow_append first rest] at cut
  obtain ⟨rfl, rfl⟩ := Prod.mk.inj (Option.some.inj cut)
  rcases side with empty | empty
  · exact occupied empty
  · exact behind empty

/-- One reader drops an arrow with an empty side and the other one does not, so that their labels hold
different numbers of arrow tips. -/
theorem optionTexts?_of_arrowAtEdge {text : List Char} (phrase : IsPhrase text)
    (edge : ArrowAtEdge text) :
    ∃ value label, optionTexts? text = some (value, label) ∧ label ≠ (valueAndLabel text).2 := by
  have tips := @count_trim '>' (by decide)
  have dropped : (valueAndLabel text).2.count '>' + 1 = text.count '>' := by
    obtain ⟨before, after, whole, first, side⟩ := edge
    rw [whole, valueAndLabel_of_side first side, tips]
    simp [Nat.add_assoc]
  rcases parted : partAtArrow? [] text with _ | ⟨value, label⟩
  · refine ⟨text, text, ?_, ?_⟩
    · rw [optionTexts?_alone phrase.feed_not_mem (by simp [parted]), phrase.trim_eq,
        if_neg phrase.ne_nil]
    · intro same
      rw [← same] at dropped
      omega
  · obtain ⟨c, front, back, whole, -, behind, rfl, rfl⟩ :=
      of_partAtArrow? phrase.feed_not_mem parted
    have start : isBlank c = false := phrase.head_not_blank c (by simp [whole])
    refine ⟨_, _, optionTexts?_of_parted parted (trim_ne_nil_iff.mpr ⟨c, by simp, start⟩), ?_⟩
    rw [whole] at edge
    have arrow : HasArrow (c :: front) := edge.hasArrow_value (by simp) behind
    have tip : 0 < (c :: front).count '>' := List.count_pos_iff.mpr (arrow.subset (by simp))
    have total : text.count '>' = (c :: front).count '>' + (back.count '>' + 1) := by
      rw [whole, List.count_append]
      simp
    intro same
    have labels := congrArg (List.count '>') same
    rw [tips] at labels
    omega

theorem blockOptions_singleton {text : List Char} (phrase : IsPhrase text) (brace : text ≠ ['}'])
    (bare : text.head? ≠ some '(' ∧ text.head? ≠ some '[') :
    blockOptions [text] = ((optionTexts? text).map fun (value, label) =>
      Choice.mk (String.ofList value) (String.ofList label) false false).toList := by
  have read : OptionLine.read? text = (optionTexts? text).map (OptionLine.ofTexts none) :=
    @OptionLine.read?_wrap_text none text fun _ => bare
  have above : [text].takeWhile (· ≠ ['}']) = [text] := by simp [brace]
  rw [blockOptions, List.map_singleton, phrase.trim_eq, above]
  simp only [List.filterMap_cons, List.filterMap_nil, read]
  cases optionTexts? text <;> rfl

theorem inlineOptions_singleton {text : List Char} (phrase : IsPhrase text) (comma : ',' ∉ text)
    (bare : text.head? ≠ some '(' ∧ text.head? ≠ some '[') :
    inlineOptions text = if (valueAndLabel text).1 = [] then [] else [Choice.ofText text] := by
  have unwrapped : unwrap? text = none := by
    apply unwrap?_eq_none
    intro bracket ends
    cases bracket
    · exact bare.1 ends.1
    · exact bare.2 ends.1
  simp only [inlineOptions, splitAt_of_not_mem comma, List.map_singleton, phrase.trim_eq,
    List.filterMap_cons, List.filterMap_nil, inlineOption?, unwrapped, Choice.ofText]
  by_cases empty : (valueAndLabel text).1 = [] <;> simp [empty, phrase.ne_nil]

/-- **Where the two selects read an option alike.** A text without commas and brackets in front makes
the same option between the braces and on a line of its own, unless its first arrow has nothing on one
of its sides: between the braces that arrow is dropped, on a line it stays in the text. -/
theorem option_readers_agree_iff {text : List Char} (phrase : IsPhrase text) (comma : ',' ∉ text)
    (bare : text.head? ≠ some '(' ∧ text.head? ≠ some '[') (brace : text ≠ ['}']) :
    (∃ choice, blockOptions [text] = [choice] ∧ inlineOptions text = [choice]) ↔
      ¬ ArrowAtEdge text := by
  rw [blockOptions_singleton phrase brace bare, inlineOptions_singleton phrase comma bare]
  constructor
  · rintro ⟨choice, block, inline⟩ edge
    obtain ⟨value, label, texts, other⟩ := optionTexts?_of_arrowAtEdge phrase edge
    rw [texts] at block
    split at inline
    · cases inline
    · have labels := congrArg (List.map Choice.label) (block.trans inline.symm)
      exact other (String.ofList_injective (List.singleton_inj.mp labels))
  · intro inner
    have texts := optionTexts?_eq_valueAndLabel phrase inner
    have occupied : (valueAndLabel text).1 ≠ [] := by
      rw [Ne, value_eq_nil_iff, phrase.trim_eq]
      rintro (empty | rfl)
      · exact phrase.ne_nil empty
      · exact inner ⟨[], [], rfl, by decide, .inl rfl⟩
    rw [texts, if_neg occupied]
    exact ⟨_, rfl, rfl⟩

/-- Several arrows do no harm. -/
theorem option_readers_agree_iff_arrows :
    ∃ choice, blockOptions ["a -> b -> c".toList] = [choice] ∧
      inlineOptions "a -> b -> c".toList = [choice] :=
  (option_readers_agree_iff (by decide) (by decide) (by decide) (by decide)).mpr (by decide)

/-- With nothing behind the arrow, only one of the readers takes the arrow off the value. -/
theorem option_readers_differ :
    blockOptions ["a ->".toList] = [⟨"a ->", "a ->", false, false⟩] ∧
      inlineOptions "a ->".toList = [⟨"a", "a", false, false⟩] := by
  decide +kernel

end Questionnaire
