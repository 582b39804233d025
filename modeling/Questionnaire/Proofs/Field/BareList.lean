import Questionnaire.Proofs.Field.OptionLine

/-! # Bare lists are read back

A line of a bare list starts with a bracket, and it is not said whether that bracket opens a marker or
goes around the whole line. What decides is the arrow: it fits into no token.
-/

namespace Questionnaire
open Text

inductive ListLine where
  /-- A choice behind a marker: `(x) yes -> Yes`. -/
  | marked (indent : List Char) (bracket : Bracket) (token : List Char) (choice : WrittenChoice)
      (isGap : IsGap indent) (isToken : IsToken token) (token_free : '\n' ∉ token)
  /-- A choice in brackets: `[yes -> Yes]`. -/
  | wrapped (indent : List Char) (bracket : Bracket) (choice : WrittenChoice)
      (isGap : IsGap indent) (plain : ∀ c ∈ choice.value, isBracket c = false)
  /-- A line that does not start with a bracket. -/
  | other (text : List Char) (free : '\n' ∉ text)
      (unopened : (trim text).head? ≠ some '(' ∧ (trim text).head? ≠ some '[')

def Bracket.drawnAs : Bracket → Control
  | round => .radio
  | square => .checkbox

namespace ListLine

def written : ListLine → List Char
  | marked indent bracket token choice _ _ _ =>
    indent ++ (bracket.around token ++ ' ' :: choice.text)
  | wrapped indent bracket choice _ _ => indent ++ bracket.around choice.text
  | other text _ _ => text

def meant? : ListLine → Option ListEntry
  | marked _ bracket token choice _ _ _ => some ⟨bracket.drawnAs, choice.behind token⟩
  | wrapped _ bracket choice _ _ => some ⟨bracket.drawnAs, choice.within (some bracket)⟩
  | other _ _ _ => none

end ListLine

theorem listEntry?_opening (bracket : Bracket) (rest : List Char) :
    listEntry? (bracket.opening :: rest) =
      (markedLine? bracket rest <|>
        (OptionLine.read? (bracket.opening :: rest)).map OptionLine.flagged).map
        fun choice => ⟨bracket.drawnAs, choice⟩ := by
  have control : bracket.control = bracket.drawnAs := by cases bracket <;> rfl
  unfold listEntry?
  dsimp only
  rw [Bracket.ofOpening?_opening, Option.bind_eq_bind, Option.bind_some, control]
  exact bind_pure_comp _ _

/-! ## Lines with a marker -/

theorem isBracket_of_closesEither {c : Char} (h : (c = ')' || c = ']') = true) :
    isBracket c = true := by
  simp only [Bool.or_eq_true, decide_eq_true_eq] at h
  rcases h with rfl | rfl <;> decide

theorem markedLine?_token {bracket : Bracket} {token after : List Char} (isToken : IsToken token)
    (free : '\n' ∉ after) :
    markedLine? bracket (token ++ bracket.closing :: after) =
      if trimStart after = [] then none
      else some ((Choice.ofText (trimStart after)).withFlags (Flags.ofToken token)) := by
  have closes : (bracket.closing = ')' || bracket.closing = ']') = true := by
    cases bracket <;> decide
  have read : readToken? (fun c => c = ')' || c = ']') (token ++ bracket.closing :: after) =
      some ⟨token, bracket.closing, after⟩ :=
    readToken?_token (fun _ => isBracket_of_closesEither) isToken closes
  have line : isOneLine (trimStart after) = true := by
    have inside : '\n' ∉ trimStart after := fun feed => free ((List.dropWhile_sublist _).mem feed)
    simpa [isOneLine] using inside
  rw [markedLine?, read, Option.bind_eq_bind, Option.bind_some]
  dsimp only
  by_cases empty : trimStart after = []
  · have refused : (guard (!(trimStart after).isEmpty && isOneLine (trimStart after) &&
        bracket.closing = bracket.closing) : Option Unit) = none := if_neg (by simp [empty])
    rw [if_pos empty, refused]
    rfl
  · have passed : (guard (!(trimStart after).isEmpty && isOneLine (trimStart after) &&
        bracket.closing = bracket.closing) : Option Unit) = some () := if_pos (by simp [empty, line])
    rw [if_neg empty, passed]
    rfl

theorem of_markedLine? {bracket : Bracket} {rest : List Char} {choice : Choice}
    (h : markedLine? bracket rest = some choice) :
    ∃ token after, IsToken token ∧ rest = token ++ bracket.closing :: after ∧
      trimStart after ≠ [] := by
  unfold markedLine? at h
  obtain ⟨⟨token, closing, after⟩, read, made⟩ := Option.bind_eq_some_iff.mp h
  obtain ⟨_, passed, -⟩ := Option.bind_eq_some_iff.mp made
  obtain ⟨isToken, -, rfl⟩ := of_readToken? read
  have checks : (!(trimStart after).isEmpty && isOneLine (trimStart after) &&
      closing = bracket.closing) = true := by
    by_contra refused
    cases passed.symm.trans (if_neg refused)
  simp only [Bool.and_eq_true, Bool.not_eq_true', List.isEmpty_eq_false_iff, decide_eq_true_eq]
    at checks
  obtain ⟨⟨behind, -⟩, rfl⟩ := checks
  exact ⟨token, after, isToken, rfl, behind⟩

theorem markedLine?_written {bracket : Bracket} {token : List Char} (isToken : IsToken token)
    (choice : WrittenChoice) :
    markedLine? bracket (token ++ bracket.closing :: ' ' :: choice.text) =
      some (choice.behind token) := by
  have text : trimStart (' ' :: choice.text) = choice.text :=
    trimStart_space_cons choice.text_phrase.head_not_blank
  rw [markedLine?_token isToken (by simp [choice.text_phrase.feed_not_mem]), text,
    if_neg choice.text_phrase.ne_nil, choice.ofText_text_behind]

/-! ## Lines in brackets -/

/-- The sign before a label is longer than one character and made of no flags. -/
theorem IsToken.arrow_not_mem {token : List Char} (h : IsToken token) :
    ¬ ('-' ∈ token ∧ '>' ∈ token) := by
  rintro ⟨dash, tip⟩
  cases h with
  | flags short flag => exact absurd (flag _ dash) (by decide)
  | single plain =>
    rw [List.mem_singleton] at dash tip
    rw [← dash] at tip
    revert tip
    decide

/-- A bracket around a whole choice opens no marker: the token would reach over the arrow. -/
theorem markedLine?_around {choice : WrittenChoice} (plain : ∀ c ∈ choice.value, isBracket c = false)
    (bracket : Bracket) (closing : Char) :
    markedLine? bracket (choice.text ++ [closing]) = none := by
  cases read : readToken? (fun c => c = ')' || c = ']') (choice.text ++ [closing]) with
  | none => rw [markedLine?, read]; rfl
  | some found =>
    obtain ⟨token, mark, after⟩ := found
    obtain ⟨isToken, closes, whole⟩ := of_readToken? read
    have isMark : isBracket mark = true := isBracket_of_closesEither closes
    -- up to the label there is no bracket, so that the token would hold all of that
    have free : ∀ c ∈ choice.value ++ " -> ".toList, isBracket c = false :=
      List.forall_mem_append.mpr ⟨plain, by simp [isBracket]⟩
    rw [WrittenChoice.text, List.append_assoc] at whole
    rcases List.append_eq_append_iff.mp whole with ⟨more, held, -⟩ | ⟨more, short, rest⟩
    · exact absurd ⟨by simp [held], by simp [held]⟩ isToken.arrow_not_mem
    · cases more with
      | nil =>
        rw [List.append_nil] at short
        exact absurd ⟨by simp [← short], by simp [← short]⟩ isToken.arrow_not_mem
      | cons d more =>
        have bad := free d (by rw [short]; simp)
        rw [← (List.cons.inj rest).1, isMark] at bad
        cases bad

/-! ## Lists -/

namespace ListLine

theorem feed_not_mem_written (line : ListLine) : '\n' ∉ line.written := by
  cases line with
  | marked indent bracket token choice isGap isToken token_free =>
    simp [written, isGap.feed_not_mem, feed_not_mem_around token_free,
      choice.text_phrase.feed_not_mem]
  | wrapped indent bracket choice isGap plain =>
    simp [written, isGap.feed_not_mem, feed_not_mem_around choice.text_phrase.feed_not_mem]
  | other text free unopened => exact free

theorem trim_written_reads (line : ListLine) :
    listEntry? (trim line.written) = line.meant? := by
  cases line with
  | marked indent bracket token choice isGap isToken token_free =>
    have phrase : IsPhrase (bracket.around token ++ [' '] ++ choice.text) :=
      (around_phrase bracket token_free).append (by decide) choice.text_phrase
    rw [List.append_assoc, List.singleton_append] at phrase
    have opened : bracket.around token ++ ' ' :: choice.text =
        bracket.opening :: (token ++ bracket.closing :: ' ' :: choice.text) := by
      simp [Bracket.around]
    rw [written, trim_append_left isGap.blank, phrase.trim_eq, opened, listEntry?_opening,
      markedLine?_written isToken]
    rfl
  | wrapped indent bracket choice isGap plain =>
    have phrase := around_phrase bracket choice.text_phrase.feed_not_mem
    have opened : bracket.around choice.text =
        bracket.opening :: (choice.text ++ [bracket.closing]) := rfl
    have read : OptionLine.read? (wrap (some bracket) choice.text) =
        some ⟨some bracket, choice.meant ⟨false, false⟩⟩ := choice.read?_wrap (by simp)
    rw [wrap, opened] at read
    rw [written, trim_append_left isGap.blank, phrase.trim_eq, opened, listEntry?_opening,
      markedLine?_around plain, read]
    rfl
  | other text free unopened =>
    rw [written]
    cases trimmed : trim text with
    | nil => rfl
    | cons c rest =>
      rw [trimmed] at unopened
      unfold listEntry?
      dsimp only
      rw [Bracket.ofOpening?_eq_none (by simpa using unopened)]
      rfl

end ListLine

/-- **A bare list is read back.** Each line makes the entry that it was written for, in order, and
lines that start with no bracket make none. -/
theorem readsAs_bareList {left : LeftPart} (valid : left.Valid) (free : '\n' ∉ left.text)
    (entries : List ListLine) (scope : String) (options : FieldOptions) :
    ReadsAs (joinLines ((left.text ++ ['=']) :: entries.map ListLine.written))
      scope options left.code left.shownName left.starred
      (.bareList (entries.filterMap ListLine.meant?)) := by
  have oneLine : ∀ line ∈ entries.map ListLine.written, '\n' ∉ line := by
    simpa using fun line _ => line.feed_not_mem_written
  have read : listEntries (lines (joinLines (entries.map ListLine.written))) =
      entries.filterMap ListLine.meant? := by
    rw [listEntries, filterMap_trim_lines rfl oneLine, List.filterMap_map, List.filterMap_map]
    exact List.filterMap_congr fun line _ => line.trim_written_reads
  refine readsAs_of_firstAnswer valid free (by simp) (by simp) (fun header => ?_) scope
  rw [Rule.firstAnswer_bareList rfl, read]

/-- Both forms and both brackets in one list, with a line between them that is no entry. -/
theorem readsAs_bareList_mixed :
    ReadsAs
      "q *=\n\t(x=) a -> b -> (c)\nd -> e\n  [f -> [x] g)]\n[1] (h) -> i]\n(j -> k)".toList
      "quiz" {} "q".toList "q".toList true
      (.bareList [⟨.radio, "a", "b -> (c)", true, true⟩, ⟨.checkbox, "f", "[x] g)", false, true⟩,
        ⟨.checkbox, "(h)", "i]", false, false⟩, ⟨.radio, "j", "k", true, false⟩]) := by
  let left : LeftPart := ⟨[], "q".toList, [' '], none, true⟩
  have valid : left.Valid := by decide
  let entries : List ListLine := [
    .marked ['\t'] .round "x=".toList
      ⟨"a".toList, "b -> (c)".toList, by decide, by decide, by decide⟩
      (by decide) (by decide) (by decide),
    .other "d -> e".toList (by decide) (by decide),
    .wrapped "  ".toList .square
      ⟨"f".toList, "[x] g)".toList, by decide, by decide, by decide⟩
      (by decide) (by simp [isBracket]),
    .marked [] .square ['1']
      ⟨"(h)".toList, "i]".toList, by decide, by decide, by decide⟩
      (by decide) (by decide) (by decide),
    .wrapped [] .round
      ⟨"j".toList, "k".toList, by decide, by decide, by decide⟩
      (by decide) (by simp [isBracket])]
  have read := readsAs_bareList valid (by decide) entries "quiz" {}
  have block : joinLines ((left.text ++ ['=']) :: entries.map ListLine.written) =
      "q *=\n\t(x=) a -> b -> (c)\nd -> e\n  [f -> [x] g)]\n[1] (h) -> i]\n(j -> k)".toList := by
    decide +kernel
  have name : left.shownName = "q".toList := by decide
  have list : entries.filterMap ListLine.meant? =
      [⟨.radio, "a", "b -> (c)", true, true⟩, ⟨.checkbox, "f", "[x] g)", false, true⟩,
        ⟨.checkbox, "(h)", "i]", false, false⟩, ⟨.radio, "j", "k", true, false⟩] := by
    decide +kernel
  rw [block, name, list] at read
  exact read

end Questionnaire
