import Questionnaire.Proofs.Field.Offers

/-! # Something to submit and something to show

Value and label of a choice are trimmed wherever they are read, and most readers pass over a choice
without a text. Two kinds of places are left where a choice is offered all the same: an arrow alone
behind a marker makes one with neither value nor label, and brackets around a value, an arrow and
blanks make one without a label.
-/

namespace Questionnaire
open Text

namespace Choice

def Trimmed (choice : Choice) : Prop :=
  trim choice.value.toList = choice.value.toList ∧ trim choice.label.toList = choice.label.toList

def Usable (choice : Choice) : Prop := choice.value ≠ "" ∧ choice.label ≠ ""

instance (choice : Choice) : Decidable choice.Usable :=
  inferInstanceAs (Decidable (choice.value ≠ "" ∧ choice.label ≠ ""))

theorem ofText_trimmed (text : List Char) : (ofText text).Trimmed := by
  simpa [ofText, Trimmed] using valueAndLabel_trimmed text

theorem ofText_usable_iff {text : List Char} (occupied : trim text ≠ []) :
    (ofText text).Usable ↔ trim text ≠ ['-', '>'] := by
  have value : (valueAndLabel text).1 = [] ↔ trim text = ['-', '>'] := by
    rw [value_eq_nil_iff, or_iff_right occupied]
  simp [ofText, Usable, label_eq_nil_iff, value]

end Choice

/-! ## Behind markers -/

/-- Behind a marker stands an arrow and nothing else, up to the next marker or the end. -/
def Bracket.MarksArrow (bracket : Bracket) (text : List Char) : Prop :=
  ∃ before token gap gap' rest,
    text = before ++ (bracket.around token ++ (gap ++ '-' :: '>' :: gap')) ++ rest ∧
      IsToken token ∧ (∀ c ∈ gap ++ gap', isBlank c = true) ∧ (rest = [] ∨ bracket.Leads rest)

theorem marksArrow_iff {bracket : Bracket} {text : List Char} :
    bracket.MarksArrow text ↔ ∃ piece ∈ bracket.markedTexts text, trim piece.text = ['-', '>'] := by
  constructor
  · rintro ⟨before, token, gap, gap', rest, whole, isToken, blank, stop⟩
    obtain ⟨front, back⟩ := List.forall_mem_append.mp blank
    have opens : isBlank bracket.opening = false := isBlank_of_isBracket bracket.isBracket_opening
    have plain : ¬ bracket.Marks (gap ++ '-' :: '>' :: gap') := by
      apply Bracket.not_marks_of_not_mem
      have sign : bracket.opening ≠ '-' ∧ bracket.opening ≠ '>' := by cases bracket <;> decide
      simp [not_mem_run front opens, not_mem_run back opens, sign]
    exact ⟨⟨token, gap ++ '-' :: '>' :: gap'⟩,
      Bracket.mem_markedTexts_iff.mpr ⟨before, rest, whole, isToken, plain, stop⟩,
      trim_eq_arrow_iff.mpr ⟨gap, gap', rfl, front, back⟩⟩
  · rintro ⟨⟨token, behind⟩, hm, alone⟩
    obtain ⟨before, rest, whole, isToken, -, stop⟩ := Bracket.mem_markedTexts_iff.mp hm
    obtain ⟨gap, gap', rfl, front, back⟩ := trim_eq_arrow_iff.mp alone
    exact ⟨before, token, gap, gap', rest, whole, isToken,
      List.forall_mem_append.mpr ⟨front, back⟩, stop⟩

theorem markedChoices_trimmed {bracket : Bracket} {rhs : List Char} :
    ∀ choice ∈ markedChoices rhs bracket, choice.Trimmed := by
  intro choice hm
  obtain ⟨piece, -, -, rfl⟩ := mem_markedChoices_iff.mp hm
  exact Choice.ofText_trimmed _

theorem markedChoices_usable_iff {bracket : Bracket} {rhs : List Char} :
    (∀ choice ∈ markedChoices rhs bracket, choice.Usable) ↔ ¬ bracket.MarksArrow rhs := by
  rw [marksArrow_iff]
  constructor
  · rintro usable ⟨piece, hm, alone⟩
    have occupied : trim piece.text ≠ [] := by simp [alone]
    have said := usable _ (mem_markedChoices_iff.mpr ⟨piece, hm, occupied, rfl⟩)
    rw [← trim_trim] at occupied alone
    exact (Choice.ofText_usable_iff occupied).mp said alone
  · intro none choice hm
    obtain ⟨piece, hp, occupied, rfl⟩ := mem_markedChoices_iff.mp hm
    rw [← trim_trim] at occupied
    refine (Choice.ofText_usable_iff occupied).mpr fun alone => none ⟨piece, hp, ?_⟩
    rwa [trim_trim] at alone

/-! ## Between braces -/

theorem inlineOptions_usable {inner : List Char} :
    ∀ choice ∈ inlineOptions inner, choice.Usable ∧ choice.Trimmed := by
  intro choice hm
  obtain ⟨token, -, found⟩ := List.mem_filterMap.mp hm
  split at found
  · cases found
  · obtain ⟨text, occupied, rfl⟩ := of_inlineOption? found
    refine ⟨?_, Choice.ofText_trimmed text⟩
    have label := mt (label_eq_nil_iff text).mp occupied
    simp [Choice.ofText, Choice.Usable, occupied, label]

/-! ## On lines of their own -/

/-- An arrow parts a value from nothing but blanks. An arrow in front of the value belongs to it. -/
def PartsBlanks (text : List Char) : Prop :=
  ∃ value gap, text = value ++ '-' :: '>' :: gap ∧ trim value ≠ [] ∧ ¬ HasArrow value.tail ∧
    gap ≠ [] ∧ ∀ c ∈ gap, isBlank c = true

theorem partsBlanks_iff {text : List Char} (free : '\n' ∉ text) :
    PartsBlanks text ↔ ∃ value, optionTexts? text = some (value, []) := by
  constructor
  · rintro ⟨value, gap, rfl, occupied, first, behind, blank⟩
    cases value with
    | nil => exact absurd rfl occupied
    | cons c before =>
      have parted := partAtArrow?_of_arrow free first behind
      rw [trim_eq_nil_iff.mpr blank] at parted
      exact ⟨_, optionTexts?_of_parted parted occupied⟩
  · rintro ⟨value, found⟩
    obtain ⟨occupied, parted | ⟨rfl, label⟩⟩ := of_optionTexts? free found
    · obtain ⟨c, before, after, whole, first, behind, rfl, label⟩ := of_partAtArrow? free parted
      exact ⟨c :: before, after, whole, occupied, first, behind, trim_eq_nil_iff.mp label.symm⟩
    · exact absurd label.symm occupied

/-- In brackets stand a value, an arrow and blanks. -/
def LacksLabel (line : List Char) : Prop :=
  ∃ (bracket : Bracket) (inner : List Char), line = bracket.around inner ∧ PartsBlanks inner

theorem read?_usable_iff {line : List Char} (trimmed : trim line = line) (free : '\n' ∉ line) :
    (∀ option, OptionLine.read? line = some option → option.choice.Usable) ↔ ¬ LacksLabel line := by
  constructor
  · rintro usable ⟨bracket, inner, rfl, parted⟩
    obtain ⟨value, found⟩ := (partsBlanks_iff (feed_not_mem_inner free)).mp parted
    have read : OptionLine.read? (bracket.around inner) =
        some (OptionLine.ofTexts (some bracket) (value, [])) := by
      rw [OptionLine.read?_around, found, Option.map_some]
    exact (usable _ read).2 rfl
  · intro labelled option read
    obtain ⟨text, ⟨value, label⟩, whole, -, found, same⟩ := OptionLine.of_read? read
    have textFree : '\n' ∉ text := feed_not_mem_unwrapped (whole ▸ free)
    have occupied : value ≠ [] := (of_optionTexts? textFree found).1
    have shown : label ≠ [] := by
      rintro rfl
      have parted := (partsBlanks_iff textFree).mpr ⟨value, found⟩
      cases wrapping : option.wrapping with
      | some bracket =>
        rw [wrapping, wrap] at whole
        exact labelled ⟨bracket, text, whole, parted⟩
      | none =>
        -- the blanks behind the arrow would be at the end of the line
        rw [wrapping, wrap] at whole
        obtain ⟨value', gap, rfl, -, -, behind, blank⟩ := parted
        rw [whole] at trimmed
        exact behind
          (@eq_nil_of_trim_append (value' ++ ['-', '>']) gap (by simpa using trimmed) blank)
    rw [same]
    simp [OptionLine.ofTexts, Choice.Usable, occupied, shown]

theorem read?_trimmed {line : List Char} {option : OptionLine} (free : '\n' ∉ line)
    (read : OptionLine.read? line = some option) : option.choice.Trimmed := by
  obtain ⟨text, ⟨value, label⟩, whole, -, found, same⟩ := OptionLine.of_read? read
  have textFree : '\n' ∉ text := feed_not_mem_unwrapped (whole ▸ free)
  rw [same]
  simpa [OptionLine.ofTexts, Choice.Trimmed] using optionTexts?_trimmed textFree found

/-- A trimmed line of a bare list is a marker with an arrow alone behind it, or it starts with no
marker and has no label. -/
inductive LacksText (line : List Char) : Prop
  | marked {bracket : Bracket} {token gap : List Char} (isToken : IsToken token)
      (blank : ∀ c ∈ gap, isBlank c = true)
      (whole : line = bracket.around token ++ (gap ++ ['-', '>'])) : LacksText line
  | wrapped (lacks : LacksLabel line) (unmarked : ∀ bracket : Bracket, ¬ bracket.Leads line) :
      LacksText line

theorem lacksText_marked_iff {bracket : Bracket} {token after : List Char} (isToken : IsToken token)
    (trimmed : trim (bracket.around token ++ after) = bracket.around token ++ after) :
    LacksText (bracket.around token ++ after) ↔ trim after = ['-', '>'] := by
  constructor
  · intro lacks
    cases lacks with
    | @marked other token' gap isToken' blank whole =>
      obtain ⟨-, -, rfl⟩ := Bracket.around_append_inj isToken isToken' whole
      exact trim_eq_arrow_iff.mpr ⟨gap, [], rfl, blank, by simp⟩
    | wrapped lacks unmarked =>
      exact absurd ⟨token, isToken, List.prefix_append _ _⟩ (unmarked bracket)
  · intro alone
    obtain ⟨gap, gap', rfl, blank, blank'⟩ := trim_eq_arrow_iff.mp alone
    have empty : gap' = [] :=
      @eq_nil_of_trim_append (bracket.around token ++ (gap ++ ['-', '>'])) gap'
        (by simpa using trimmed) blank'
    exact .marked isToken blank (by rw [empty])

theorem lacksText_unmarked_iff {line : List Char} (trimmed : trim line = line)
    (unmarked : Unmarked line) : LacksText line ↔ LacksLabel line := by
  constructor
  · intro lacks
    cases lacks with
    | @marked bracket token gap isToken blank whole =>
      have nothing := unmarked bracket token _ isToken whole
      exact absurd (trimStart_eq_nil_iff.mp nothing '-' (by simp)) (by decide)
    | wrapped lacks _ => exact lacks
  · intro lacks
    refine .wrapped lacks ?_
    rintro bracket ⟨token, isToken, after, rfl⟩
    have nothing := unmarked bracket token after isToken rfl
    obtain rfl := eq_nil_of_trim_append trimmed (trimStart_eq_nil_iff.mp nothing)
    obtain ⟨other, inner, same, value, gap, whole, -⟩ := lacks
    rw [List.append_nil] at same
    obtain ⟨-, rfl⟩ := Bracket.around_inj same
    exact isToken.arrow_not_mem ⟨by simp [whole], by simp [whole]⟩

theorem listEntry?_usable_iff {line : List Char} (trimmed : trim line = line) (free : '\n' ∉ line) :
    (∀ entry, listEntry? line = some entry → entry.choice.Usable) ↔ ¬ LacksText line := by
  rcases marked_or_unmarked line with ⟨bracket, token, after, isToken, rfl, behind⟩ | unmarked
  · have afterFree : '\n' ∉ after := fun feed => free (by simp [feed])
    have occupied : trim (trimStart after) ≠ [] := by
      rwa [trim_trimStart, Ne, trim_eq_nil_iff, ← trimStart_eq_nil_iff]
    rw [listEntry?_marked isToken afterFree behind, lacksText_marked_iff isToken trimmed,
      ← trim_trimStart]
    simp only [Option.some.injEq, forall_eq']
    exact Choice.ofText_usable_iff occupied
  · rw [lacksText_unmarked_iff trimmed unmarked]
    constructor
    · intro usable lacks
      refine (read?_usable_iff trimmed free).mp (fun option read => ?_) lacks
      obtain ⟨bracket, inner, rfl, -⟩ := lacks
      have wrapping := OptionLine.wrapping_of_read? read
      exact usable _ ((listEntry?_unmarked unmarked).mpr ⟨option, bracket, read, wrapping, rfl⟩)
    · intro labelled entry found
      obtain ⟨option, bracket, read, -, rfl⟩ := (listEntry?_unmarked unmarked).mp found
      exact (read?_usable_iff trimmed free).mpr labelled option read

theorem listEntry?_trimmed {line : List Char} {entry : ListEntry} (free : '\n' ∉ line)
    (found : listEntry? line = some entry) : entry.choice.Trimmed := by
  rcases marked_or_unmarked line with ⟨bracket, token, after, isToken, rfl, behind⟩ | unmarked
  · rw [listEntry?_marked isToken (fun feed => free (by simp [feed])) behind] at found
    cases found
    exact Choice.ofText_trimmed _
  · obtain ⟨option, bracket, read, -, rfl⟩ := (listEntry?_unmarked unmarked).mp found
    exact read?_trimmed free read

theorem blockOptions_usable_iff {body : List (List Char)} (free : ∀ line ∈ body, '\n' ∉ line) :
    (∀ choice ∈ blockOptions body, choice.Usable) ↔
      ∀ line ∈ optionLines body, ¬ LacksLabel line := by
  have plain : ∀ line ∈ optionLines body, trim line = line ∧ '\n' ∉ line :=
    fun line hm => of_mem_map_trim free line (mem_of_mem_optionLines hm)
  constructor
  · intro usable line hm
    refine (read?_usable_iff (plain line hm).1 (plain line hm).2).mp fun option read => ?_
    exact usable option.flagged (mem_blockOptions_iff.mpr ⟨line, hm, option, read, rfl⟩)
  · intro labelled choice hc
    obtain ⟨line, hm, option, read, rfl⟩ := mem_blockOptions_iff.mp hc
    exact (read?_usable_iff (plain line hm).1 (plain line hm).2).mpr (labelled line hm) option read

theorem listEntries_usable_iff {body : List (List Char)} (free : ∀ line ∈ body, '\n' ∉ line) :
    (∀ choice ∈ (listEntries body).map ListEntry.choice, choice.Usable) ↔
      ∀ line ∈ body.map trim, ¬ LacksText line := by
  have plain := of_mem_map_trim free
  constructor
  · intro usable line hm
    refine (listEntry?_usable_iff (plain line hm).1 (plain line hm).2).mp fun entry found => ?_
    exact usable _ (List.mem_map_of_mem (List.mem_filterMap.mpr ⟨line, hm, found⟩))
  · intro shown choice hc
    obtain ⟨entry, he, rfl⟩ := List.mem_map.mp hc
    obtain ⟨line, hm, found⟩ := List.mem_filterMap.mp he
    exact (listEntry?_usable_iff (plain line hm).1 (plain line hm).2).mpr (shown line hm) entry found

/-! ## Elements -/

/-- The places where a choice is offered without a value or a label. -/
inductive LeavesEmpty (rhs : List Char) (body : List (List Char)) : Prop
  | marker {bracket : Bracket} (leads : bracket.Leads rhs) (arrow : bracket.MarksArrow rhs) :
      LeavesEmpty rhs body
  | option {line : List Char} (brace : rhs = ['{']) (hm : line ∈ optionLines body)
      (lacks : LacksLabel line) : LeavesEmpty rhs body
  | entry {line : List Char} (empty : rhs = []) (hm : line ∈ body.map trim)
      (lacks : LacksText line) : LeavesEmpty rhs body

namespace Offers

variable {rhs : List Char} {body : List (List Char)} {choices : List Choice}

theorem trimmed (free : ∀ line ∈ body, '\n' ∉ line) (h : Offers rhs body choices) :
    ∀ choice ∈ choices, choice.Trimmed := by
  cases h with
  | set => exact markedChoices_trimmed
  | inline => exact fun choice hm => (inlineOptions_usable choice hm).2
  | block =>
    intro choice hm
    obtain ⟨line, hl, option, read, rfl⟩ := mem_blockOptions_iff.mp hm
    exact read?_trimmed (of_mem_map_trim free line (mem_of_mem_optionLines hl)).2 read
  | list =>
    intro choice hm
    obtain ⟨entry, he, rfl⟩ := List.mem_map.mp hm
    obtain ⟨line, hl, found⟩ := List.mem_filterMap.mp he
    exact listEntry?_trimmed (of_mem_map_trim free line hl).2 found
  | nothing => simp

theorem usable_iff (free : ∀ line ∈ body, '\n' ∉ line) (h : Offers rhs body choices) :
    (∀ choice ∈ choices, choice.Usable) ↔ ¬ LeavesEmpty rhs body := by
  cases h with
  | @set bracket leads noSize =>
    rw [markedChoices_usable_iff]
    refine not_congr ⟨.marker leads, fun left => ?_⟩
    cases left with
    | marker leads' arrow => rwa [leads.unique leads']
    | option brace => exact absurd brace (leads_excludes leads).2.1
    | entry empty => exact absurd empty (leads_excludes leads).2.2
  | inline braces =>
    refine iff_of_true (fun choice hm => (inlineOptions_usable choice hm).1) fun left => ?_
    cases left with
    | marker leads => cases braces.symm.trans (leads_excludes leads).1
    | option brace => subst brace; cases braces
    | entry empty => subst empty; cases braces
  | block brace =>
    rw [blockOptions_usable_iff free]
    constructor
    · intro labelled left
      cases left with
      | marker leads => exact (leads_excludes leads).2.1 brace
      | option _ hm lacks => exact labelled _ hm lacks
      | entry empty => cases brace.symm.trans empty
    · intro left line hm lacks
      exact left (.option brace hm lacks)
  | list empty =>
    rw [listEntries_usable_iff free]
    constructor
    · intro shown left
      cases left with
      | marker leads => exact (leads_excludes leads).2.2 empty
      | option brace => cases brace.symm.trans empty
      | entry _ hm lacks => exact shown _ hm lacks
    · intro left line hm lacks
      exact left (.entry empty hm lacks)
  | nothing noSet noBlock noList =>
    refine iff_of_true (by simp) fun left => ?_
    cases left with
    | @marker bracket leads arrow =>
      -- a size holds no arrow
      obtain ⟨before, token, gap, gap', rest, whole, -⟩ := arrow
      have dash : '-' ∈ rhs := by simp [whole]
      exact noSet bracket leads
        (digitsInBrackets?_of_mem dash (by decide) (by decide) (by decide))
    | option brace => exact noBlock brace
    | entry empty => exact noList empty

end Offers

/-- **Where choices are usable.** No choice of a field has blanks around its value or its label. All
of them have a value and a label, unless an arrow stands alone behind a marker or brackets hold a
value, an arrow and blanks. -/
theorem choices_usable_iff {block scope : String} {header : FieldHeader} {body : List String}
    {options : FieldOptions} {element : Element}
    (read : FieldHeader.readBlock? block scope = some (header, body))
    (classified : classify header body options = .ok element) :
    (∀ choice ∈ element.choices, choice.Trimmed) ∧
      ((∀ choice ∈ element.choices, choice.Usable) ↔
        ¬ LeavesEmpty (trim header.rhs.toList) (body.map String.toList)) := by
  obtain ⟨line, rest, -, whole, -, -, rfl⟩ := FieldHeader.exists_read?_of_readBlock? read
  have free : ∀ text ∈ (rest.map String.ofList).map String.toList, '\n' ∉ text := by
    intro text hm
    simp only [List.map_map, Function.comp_def, String.toList_ofList, List.map_id'] at hm
    exact lines_free block.toList text (by rw [whole]; exact List.mem_cons_of_mem _ hm)
  have offers := offers_of_classify classified
  exact ⟨offers.trimmed free, offers.usable_iff free⟩

/-- An entry has a value and no label. -/
theorem choices_usable_iff_unlabelled :
    (∀ choice ∈ (Element.bareList [⟨.radio, "a", "b", true, false⟩,
      ⟨.checkbox, "c", "", false, true⟩]).choices, choice.Trimmed) ∧
      LeavesEmpty (trim "".toList) (["(x) a -> b", " [c -> ]"].map String.toList) := by
  have read : FieldHeader.readBlock? "q =\n(x) a -> b\n [c -> ]" "quiz" =
      some (⟨"quiz_q", "q", "q", false, "", "q =\n(x) a -> b\n [c -> ]"⟩,
        ["(x) a -> b", " [c -> ]"]) := by
    decide +kernel
  have classified : classify ⟨"quiz_q", "q", "q", false, "", "q =\n(x) a -> b\n [c -> ]"⟩
      ["(x) a -> b", " [c -> ]"] {} = .ok (.bareList [⟨.radio, "a", "b", true, false⟩,
        ⟨.checkbox, "c", "", false, true⟩]) := by
    decide +kernel
  obtain ⟨trimmed, usable⟩ := choices_usable_iff read classified
  refine ⟨trimmed, ?_⟩
  by_contra nowhere
  exact absurd (usable.mpr nowhere) (by decide)

/-- Behind the only marker stands an arrow, and the choice has neither value nor label. -/
theorem arrow_alone_is_offered :
    FieldHeader.readBlock? "q = (x) ->" "quiz" =
        some (⟨"quiz_q", "q", "q", false, "(x) ->", "q = (x) ->"⟩, []) ∧
      classify ⟨"quiz_q", "q", "q", false, "(x) ->", "q = (x) ->"⟩ [] {} =
        .ok (.radioSet [⟨"", "", true, false⟩]) := by
  decide +kernel

end Questionnaire
