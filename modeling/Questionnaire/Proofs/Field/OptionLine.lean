import Questionnaire.Proofs.Field.Written

/-! # Option lines are read back

A line of its own holds a choice, bare or in brackets. The brackets are those around the whole line,
whatever value and label hold, and the arrow is the first one, whatever stands in the label.
-/

namespace Questionnaire
open Text

/-! ## The arrow of a line -/

/-- What is passed over: all but an arrow with a label. -/
theorem partAtArrow?_pass {c : Char} {seen rest : List Char}
    (h : ∀ after, after ≠ [] → c :: rest ≠ '-' :: '>' :: after) :
    partAtArrow? seen (c :: rest) = partAtArrow? (c :: seen) rest := by
  cases rest with
  | nil => rfl
  | cons d after =>
    rw [partAtArrow?, if_neg]
    intro arrow
    simp only [Bool.and_eq_true, decide_eq_true_eq] at arrow
    obtain ⟨⟨rfl, rfl⟩, parted⟩ := arrow
    refine h after ?_ rfl
    rintro rfl
    simp [parts, longestLabel, trimStart] at parted

theorem partAtArrow?_cons {c : Char} {seen rest : List Char}
    (h : ¬ (c = '-' ∧ rest.head? = some '>')) :
    partAtArrow? seen (c :: rest) = partAtArrow? (c :: seen) rest := by
  apply partAtArrow?_pass
  rintro after - same
  obtain ⟨dash, rfl⟩ := List.cons.inj same
  exact h ⟨dash, rfl⟩

theorem partAtArrow?_arrow {seen after : List Char} (parted : parts seen after = true) :
    partAtArrow? seen ('-' :: '>' :: after) = some (trim seen.reverse, trim after) := by
  rw [partAtArrow?, if_pos (by simp [parted])]

theorem shortestValue_ne_nil {seen : List Char} (h : seen ≠ []) : shortestValue seen ≠ [] := by
  unfold shortestValue
  cases seen.dropWhile isBlank with
  | nil => simpa [Option.toList_eq_nil_iff] using h
  | cons c rest => simp

theorem mem_of_mem_shortestValue {seen : List Char} {c : Char} (h : c ∈ shortestValue seen) :
    c ∈ seen := by
  unfold shortestValue at h
  cases run : seen.dropWhile isBlank with
  | nil =>
    rw [run] at h
    exact List.mem_of_getLast? (Option.mem_toList.mp h)
  | cons d rest =>
    rw [run] at h
    have inside : c ∈ seen.dropWhile isBlank := by rw [run]; exact List.mem_reverse.mp h
    exact (List.dropWhile_sublist _).mem inside

theorem longestLabel_ne_nil {after : List Char} (h : after ≠ []) : longestLabel after ≠ [] := by
  unfold longestLabel
  cases trimStart after with
  | nil => simpa [Option.toList_eq_nil_iff] using h
  | cons c rest => simp

theorem mem_of_mem_longestLabel {after : List Char} {c : Char} (h : c ∈ longestLabel after) :
    c ∈ after := by
  unfold longestLabel at h
  cases run : trimStart after with
  | nil =>
    rw [run] at h
    exact List.mem_of_getLast? (Option.mem_toList.mp h)
  | cons d rest =>
    rw [run] at h
    have inside : c ∈ trimStart after := by rw [run]; exact h
    exact (List.dropWhile_sublist _).mem inside

/-- On one line an arrow parts what stands on both sides of it, if there is anything. -/
theorem parts_iff {seen after : List Char} (seenFree : '\n' ∉ seen) (afterFree : '\n' ∉ after) :
    parts seen after = true ↔ seen ≠ [] ∧ after ≠ [] := by
  have value : '\n' ∉ shortestValue seen := fun h => seenFree (mem_of_mem_shortestValue h)
  have label : '\n' ∉ longestLabel after := fun h => afterFree (mem_of_mem_longestLabel h)
  constructor
  · intro parted
    constructor
    · rintro rfl
      simp [parts, shortestValue] at parted
    · rintro rfl
      simp [parts, longestLabel, trimStart] at parted
  · rintro ⟨before, behind⟩
    simp [parts, isOneLine, value, label, shortestValue_ne_nil before, longestLabel_ne_nil behind]

/-- Once something has been passed over, the first arrow parts the text if anything is behind it. -/
theorem partAtArrow?_eq {seen text : List Char} (occupied : seen ≠ []) (seenFree : '\n' ∉ seen)
    (free : '\n' ∉ text) :
    partAtArrow? seen text = (cutAtArrow text).bind fun (before, after) =>
      if after.isEmpty then none else some (trim (seen.reverse ++ before), trim after) := by
  induction text generalizing seen with
  | nil => rfl
  | cons c rest ih =>
    rw [List.mem_cons, not_or] at free
    by_cases arrow : c = '-' ∧ rest.head? = some '>'
    · obtain ⟨rfl, first⟩ := arrow
      obtain ⟨after, rfl⟩ := List.head?_eq_some_iff.mp first
      have afterFree : '\n' ∉ after := by simpa using free.2
      cases after with
      | nil =>
        rw [partAtArrow?_pass (by simp)]
        rfl
      | cons d after =>
        rw [partAtArrow?_arrow ((parts_iff seenFree afterFree).mpr ⟨occupied, by simp⟩)]
        simp [cutAtArrow]
    · rw [partAtArrow?_cons arrow, ih (by simp) (by simp [free.1, seenFree]) free.2,
        cutAtArrow_cons arrow, Option.bind_map]
      simp only [Function.comp_def, List.reverse_cons, List.append_assoc, List.singleton_append]

/-- An arrow in front of which nothing stands parts nothing. -/
theorem partAtArrow?_nil_cons (c : Char) (rest : List Char) :
    partAtArrow? [] (c :: rest) = partAtArrow? [c] rest := by
  cases rest with
  | nil => rfl
  | cons d after => rw [partAtArrow?, if_neg (by simp [parts, shortestValue])]

namespace OptionLine

def ofTexts (wrapping : Option Bracket) (texts : List Char × List Char) : OptionLine :=
  ⟨wrapping, { value := String.ofList texts.1, label := String.ofList texts.2 }⟩

/-- Brackets are taken off and remembered, and a bare line must not look like one in brackets. -/
theorem read?_wrap_text {wrapping : Option Bracket} {text : List Char}
    (bare : wrapping = none → text.head? ≠ some '(' ∧ text.head? ≠ some '[') :
    read? (wrap wrapping text) = (optionTexts? text).map (ofTexts wrapping) := by
  cases wrapping with
  | none =>
    cases text with
    | nil => rfl
    | cons c rest =>
      have plain : Bracket.ofOpening? c = none :=
        Bracket.ofOpening?_eq_none (by simpa using bare rfl)
      simp only [wrap, read?, plain, Option.bind_eq_bind, Option.bind_some]
      cases optionTexts? (c :: rest) <;> rfl
  | some bracket =>
    simp only [wrap, Bracket.around, read?, List.cons_append, Bracket.ofOpening?_opening,
      cutLast_append, Option.bind_eq_bind, Option.bind_some]
    cases optionTexts? text <;> rfl

theorem read?_around (bracket : Bracket) (text : List Char) :
    read? (bracket.around text) = (optionTexts? text).map (ofTexts (some bracket)) :=
  @read?_wrap_text (some bracket) text (by simp)

/-- A line that is read is bare or in brackets. -/
theorem of_read? {line : List Char} {option : OptionLine} (h : read? line = some option) :
    ∃ text texts, line = wrap option.wrapping text ∧
      (option.wrapping = none → text.head? ≠ some '(' ∧ text.head? ≠ some '[') ∧
      optionTexts? text = some texts ∧ option = ofTexts option.wrapping texts := by
  have whole : ∃ wrapping text, line = wrap wrapping text ∧
      (wrapping = none → text.head? ≠ some '(' ∧ text.head? ≠ some '[') := by
    cases line with
    | nil => cases h
    | cons c rest =>
      cases kind : Bracket.ofOpening? c with
      | none =>
        refine ⟨none, c :: rest, rfl, fun _ => ?_⟩
        constructor <;> rintro ⟨rfl⟩ <;> cases kind
      | some bracket =>
        cases cut : cutLast bracket.closing rest with
        | none => simp [read?, kind, cut] at h
        | some text =>
          refine ⟨some bracket, text, ?_, by simp⟩
          rw [Bracket.of_ofOpening? kind, cutLast_eq_some cut, wrap, Bracket.around,
            List.cons_append]
  obtain ⟨wrapping, text, rfl, bare⟩ := whole
  rw [read?_wrap_text bare] at h
  obtain ⟨texts, found, rfl⟩ := Option.map_eq_some_iff.mp h
  exact ⟨text, texts, rfl, bare, found, rfl⟩

theorem wrapping_of_read? {bracket : Bracket} {rest : List Char} {option : OptionLine}
    (h : read? (bracket.opening :: rest) = some option) : option.wrapping = some bracket := by
  obtain ⟨text, texts, whole, bare, -⟩ := of_read? h
  cases kind : option.wrapping with
  | none =>
    rw [kind, wrap] at whole
    have unopened := bare kind
    rw [← whole] at unopened
    cases bracket
    · exact absurd rfl unopened.1
    · exact absurd rfl unopened.2
  | some other =>
    rw [kind, wrap, Bracket.around, List.cons_append] at whole
    rw [Bracket.opening_inj (List.cons.inj whole).1]

end OptionLine

namespace WrittenChoice

variable (choice : WrittenChoice)

theorem optionTexts?_text : optionTexts? choice.text = some (choice.value, choice.label) := by
  obtain ⟨c, rest, start⟩ := List.exists_cons_of_ne_nil choice.value_phrase.ne_nil
  have value : trim (choice.value ++ [' ']) = choice.value := by
    rw [trim_append_space, choice.value_phrase.trim_eq]
  have label : trim (' ' :: choice.label) = choice.label := by
    rw [trim_space_cons, choice.label_phrase.trim_eq]
  have found : partAtArrow? [] choice.text = some (choice.value, choice.label) := by
    have free := choice.text_phrase.feed_not_mem
    have noArrow := choice.no_arrow
    rw [choice.text_eq, start, List.cons_append, List.cons_append] at free ⊢
    rw [start] at noArrow value
    rw [List.mem_cons, not_or] at free
    rw [partAtArrow?_nil_cons, partAtArrow?_eq (by simp) (by simpa using free.1) free.2,
      cutAtArrow_append (not_hasArrow_concat (not_hasArrow_of_cons noArrow).1 (by decide)),
      Option.bind_some]
    dsimp only
    rw [List.reverse_singleton, List.singleton_append, ← List.cons_append, value, label]
    rfl
  rw [optionTexts?, found, start]

theorem read?_wrap {wrapping : Option Bracket}
    (bare : wrapping = none → choice.value.head? ≠ some '(' ∧ choice.value.head? ≠ some '[') :
    OptionLine.read? (wrap wrapping choice.text) =
      some ⟨wrapping, choice.meant ⟨false, false⟩⟩ := by
  rw [OptionLine.read?_wrap_text (by rwa [choice.head?_text]), choice.optionTexts?_text]
  rfl

end WrittenChoice

/-! ## Block selects -/

/-- An option of a block select as an author writes it, on a line of its own. A bare option must not
start with a bracket. -/
structure SelectLine extends WrittenChoice where
  indent : List Char
  wrapping : Option Bracket
  isGap : IsGap indent
  bare : wrapping = none → value.head? ≠ some '(' ∧ value.head? ≠ some '['

namespace SelectLine

def written (line : SelectLine) : List Char := line.indent ++ wrap line.wrapping line.text

theorem trim_written (line : SelectLine) : trim line.written = wrap line.wrapping line.text := by
  rw [written, trim_append_left line.isGap.blank, (wrap_phrase _ line.text_phrase).trim_eq]

theorem feed_not_mem_written (line : SelectLine) : '\n' ∉ line.written := by
  simp [written, line.isGap.feed_not_mem, (wrap_phrase line.wrapping line.text_phrase).feed_not_mem]

theorem trim_written_ne_brace (line : SelectLine) : trim line.written ≠ ['}'] := by
  have dash : '-' ∈ wrap line.wrapping line.text := by
    cases line.wrapping <;> simp [wrap, Bracket.around, WrittenChoice.text]
  intro brace
  rw [← line.trim_written, brace] at dash
  revert dash
  decide

theorem read?_trim_written (line : SelectLine) :
    (OptionLine.read? (trim line.written)).map OptionLine.flagged =
      some (line.within line.wrapping) := by
  rw [line.trim_written, line.read?_wrap line.bare]
  rfl

/-- The lines above a closing brace are the options, and the lines below it are not looked at. -/
theorem blockOptions_written (offered : List SelectLine) (after : List (List Char)) :
    blockOptions (lines (joinLines (offered.map written ++ ['}'] :: after))) =
      offered.map fun line => line.within line.wrapping := by
  have free : ∀ line ∈ offered.map written, '\n' ∉ line := by
    simpa using fun line _ => line.feed_not_mem_written
  have above : ∀ line ∈ (offered.map written).map trim, decide (line ≠ ['}']) = true := by
    simpa using fun line _ => line.trim_written_ne_brace
  have closing : (lines (joinLines (['}'] :: after))).map trim =
      ['}'] :: (lines (joinLines after)).map trim := by
    rw [lines_joinLines_cons (by decide) (by decide) (by decide)]
    rfl
  rw [blockOptions, map_trim_lines_append free (by simp), closing,
    List.takeWhile_append_of_pos above, List.takeWhile_cons_of_neg (by simp), List.append_nil,
    List.map_filterMap, List.filterMap_map, List.filterMap_map]
  simp [Function.comp_def, read?_trim_written]

end SelectLine

/-- **A block select is read back.** Under any header that ends in a brace the options are those on
the lines above the closing brace, in their order. -/
theorem readsAs_blockSelect {left : LeftPart} (valid : left.Valid) (free : '\n' ∉ left.text)
    {gap : List Char} (isGap : IsGap gap) (offered : List SelectLine) (after : List (List Char))
    (scope : String) (options : FieldOptions) :
    ReadsAs
      (joinLines ((left.text ++ '=' :: gap ++ ['{']) ::
        (offered.map SelectLine.written ++ ['}'] :: after)))
      scope options left.code left.shownName left.starred
      (.blockSelect (offered.map fun line => line.within line.wrapping)) := by
  refine readsAs_of_phrase valid free isGap (by decide) (fun header => ?_) scope
  rw [Rule.firstAnswer_blockSelect rfl, SelectLine.blockOptions_written]

/-- Only the outer brackets and the first arrow of a line count, and nothing below the brace does. -/
theorem readsAs_blockSelect_nested_brackets :
    ReadsAs
      "city -> Town *= \x7b\n\t(a) - -> b -> (c)\nb] -> [x -> y\n [(c -> d]]\n\x7d\nz".toList
      "quiz" {} "city".toList "Town".toList true
      (.blockSelect [⟨"a) -", "b -> (c", true, false⟩, ⟨"b]", "[x -> y", false, false⟩,
        ⟨"(c", "d]", false, true⟩]) := by
  let left : LeftPart := ⟨[], "city".toList, [' '], some " Town ".toList, true⟩
  have valid : left.Valid := by decide
  let offered : List SelectLine := [
    ⟨⟨"a) -".toList, "b -> (c".toList, by decide, by decide, by decide⟩, ['\t'], some .round,
      by decide, by decide⟩,
    ⟨⟨"b]".toList, "[x -> y".toList, by decide, by decide, by decide⟩, [], none,
      by decide, by decide⟩,
    ⟨⟨"(c".toList, "d]".toList, by decide, by decide, by decide⟩, [' '], some .square,
      by decide, by decide⟩]
  have read := readsAs_blockSelect valid (by decide) (show IsGap [' '] by decide) offered
    ["z".toList] "quiz" {}
  have block : joinLines ((left.text ++ '=' :: [' '] ++ ['{']) ::
      (offered.map SelectLine.written ++ ['}'] :: ["z".toList])) =
      "city -> Town *= \x7b\n\t(a) - -> b -> (c)\nb] -> [x -> y\n [(c -> d]]\n\x7d\nz".toList := by
    decide +kernel
  have name : left.shownName = "Town".toList := by decide
  have choices : (offered.map fun line => line.within line.wrapping) =
      [⟨"a) -", "b -> (c", true, false⟩, ⟨"b]", "[x -> y", false, false⟩,
        ⟨"(c", "d]", false, true⟩] := by
    decide +kernel
  rw [block, name, choices] at read
  exact read

end Questionnaire
