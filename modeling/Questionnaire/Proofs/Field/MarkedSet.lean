import Questionnaire.Proofs.Field.Written

/-! # Radio and checkbox sets are read back

A set is written on the header line, each choice behind a marker. Between the brackets of a marker an
equals sign is no separator of the header and a number no size, and behind it anything may stand, also
brackets, as long as they make no second marker of the same kind.
-/

namespace Questionnaire
open Text

structure MarkedChoice (bracket : Bracket) extends WrittenChoice where
  token : List Char
  isToken : IsToken token
  token_free : '\n' ∉ token
  unmarked : ¬ bracket.Marks toWrittenChoice.text

namespace MarkedChoice

variable {bracket : Bracket}

def written (choice : MarkedChoice bracket) : List Char :=
  bracket.around choice.token ++ ' ' :: choice.text

def joined (choices : List (MarkedChoice bracket)) : List Char :=
  [' '].intercalate (choices.map written)

/-- Where scanning cuts: the blank before a marker goes to the choice in front of it. -/
def pieces : List (MarkedChoice bracket) → List MarkedText
  | [] => []
  | [last] => [⟨last.token, ' ' :: last.text⟩]
  | choice :: more => ⟨choice.token, ' ' :: choice.text ++ [' ']⟩ :: pieces more

theorem written_pieces (choices : List (MarkedChoice bracket)) :
    bracket.written (pieces choices) = joined choices := by
  fun_induction pieces choices with
  | case1 => rfl
  | case2 last => simp [Bracket.written, joined, written]
  | case3 choice more occupied ih =>
    have others : more.map written ≠ [] := by simpa using occupied
    rw [Bracket.written, List.flatMap_cons]
    change _ ++ bracket.written (pieces more) = _
    rw [ih, joined, joined, List.map_cons, List.intercalate_cons_of_ne_nil others]
    simp [written]

/-- Blanks around a choice make no marker with it. -/
theorem unmarked_padded (choice : MarkedChoice bracket) :
    ¬ bracket.Marks (' ' :: choice.text) ∧ ¬ bracket.Marks (' ' :: choice.text ++ [' ']) := by
  have opening : ' ' ≠ bracket.opening := by cases bracket <;> decide
  have closing : ' ' ≠ bracket.closing := by cases bracket <;> decide
  exact ⟨fun h => choice.unmarked (h.of_cons opening),
    fun h => choice.unmarked ((h.of_concat closing).of_cons opening)⟩

theorem unmarked_pieces (choices : List (MarkedChoice bracket)) :
    ∀ piece ∈ pieces choices, IsToken piece.token ∧ ¬ bracket.Marks piece.text := by
  fun_induction pieces choices with
  | case1 => simp
  | case2 last => simpa using ⟨last.isToken, last.unmarked_padded.1⟩
  | case3 choice more occupied ih =>
    exact List.forall_mem_cons.mpr ⟨⟨choice.isToken, choice.unmarked_padded.2⟩, ih⟩

theorem choice?_padded (choice : MarkedChoice bracket) {gap : List Char}
    (blank : ∀ c ∈ gap, isBlank c = true) :
    MarkedText.choice? ⟨choice.token, ' ' :: choice.text ++ gap⟩ =
      some (choice.behind choice.token) := by
  have inner : trim (' ' :: choice.text ++ gap) = choice.text := by
    rw [trim_append_right blank, trim_space_cons, choice.text_phrase.trim_eq]
  rw [MarkedText.choice?]
  dsimp only
  rw [inner, if_neg (by simp [choice.text_phrase.ne_nil]), choice.ofText_text_behind]

theorem filterMap_choice?_pieces (choices : List (MarkedChoice bracket)) :
    (pieces choices).filterMap MarkedText.choice? =
      choices.map fun choice => choice.behind choice.token := by
  fun_induction pieces choices with
  | case1 => rfl
  | case2 last =>
    have read : MarkedText.choice? ⟨last.token, ' ' :: last.text ++ []⟩ =
        some (last.behind last.token) :=
      last.choice?_padded (by simp)
    rw [List.append_nil] at read
    rw [List.filterMap_cons_some read]
    rfl
  | case3 choice more occupied ih =>
    rw [List.filterMap_cons_some (choice.choice?_padded (by simp [isBlank])), ih, List.map_cons]

/-- Scanning finds the choices that were written. -/
theorem markedChoices_joined (choices : List (MarkedChoice bracket)) :
    markedChoices (joined choices) bracket =
      choices.map fun choice => choice.behind choice.token := by
  have nothing : ¬ bracket.Marks [] := by
    rw [Bracket.marks_iff]
    simp [Bracket.markedTexts, Bracket.cutMarkers]
  have scan := Bracket.cutMarkers_written nothing (unmarked_pieces choices)
  rw [List.nil_append, written_pieces] at scan
  rw [markedChoices, Bracket.markedTexts, scan, filterMap_choice?_pieces]

theorem written_phrase (choice : MarkedChoice bracket) : IsPhrase choice.written := by
  have marker := around_phrase bracket choice.token_free
  have whole := marker.append (show '\n' ∉ [' '] by decide) choice.text_phrase
  rwa [List.append_assoc, List.singleton_append] at whole

theorem joined_phrase {choices : List (MarkedChoice bracket)} (some : choices ≠ []) :
    IsPhrase (joined choices) := by
  apply IsPhrase.intercalate (by decide)
  · intro text hm
    obtain ⟨choice, -, rfl⟩ := List.mem_map.mp hm
    exact choice.written_phrase
  · simpa using some

theorem joined_cons (choice : MarkedChoice bracket) (more : List (MarkedChoice bracket)) :
    ∃ tail, joined (choice :: more) =
      bracket.around choice.token ++ (' ' :: choice.text ++ tail) := by
  by_cases last : more = []
  · exact ⟨[], by simp [last, joined, written]⟩
  · refine ⟨' ' :: joined more, ?_⟩
    have others : more.map written ≠ [] := by simpa using last
    rw [joined, List.map_cons, List.intercalate_cons_of_ne_nil others]
    simp [joined, written]

/-- A set is told from a text area by its first arrow, also where its first token is a number. -/
theorem firstAnswer_joined {choices : List (MarkedChoice bracket)} (occupied : choices ≠ [])
    (field : FieldHeader) (body : List (List Char)) (options : FieldOptions) :
    Rule.firstAnswer Rule.table ⟨field, joined choices, body, options⟩ =
      .ok (some (bracket.choiceSet (choices.map fun choice => choice.behind choice.token))) := by
  obtain ⟨first, more, rfl⟩ := List.exists_cons_of_ne_nil occupied
  obtain ⟨tail, start⟩ := joined_cons first more
  have lead : bracket.leadingToken? (joined (first :: more)) = some first.token := by
    rw [start, Bracket.leadingToken?_around first.isToken]
  have dash : '-' ∈ joined (first :: more) := by simp [start, WrittenChoice.text]
  have noRows : digitsInBrackets? (joined (first :: more)) = none :=
    digitsInBrackets?_of_mem dash (by decide) (by decide) (by decide)
  rw [Rule.firstAnswer_set lead noRows, markedChoices_joined]

/-- **A set is read back.** Code, name and required flag are those of the header, and the choices are
those that were written, in their order, with the flags that their tokens give. -/
theorem readsAs_choiceSet (header : WrittenHeader) {choices : List (MarkedChoice bracket)}
    (occupied : choices ≠ []) (below : List (List Char)) (scope : String) (options : FieldOptions) :
    ReadsAs
      (joinLines ((header.text ++ ' ' :: [' '].intercalate (choices.map written)) :: below))
      scope options header.code header.name header.required
      (bracket.choiceSet (choices.map fun choice => choice.behind choice.token)) := by
  have line : header.text ++ ' ' :: [' '].intercalate (choices.map written) =
      header.left.text ++ '=' :: [' '] ++ joined choices := by
    rw [← header.left_text, List.append_assoc, List.append_assoc]
    rfl
  rw [line, ← header.shownName_left]
  exact readsAs_of_phrase header.left_valid header.feed_not_mem_left (by decide)
    (joined_phrase occupied) (fun field => firstAnswer_joined occupied field _ options) scope

/-- Brackets that do not make a marker stay in values and labels. -/
theorem readsAs_choiceSet_stray_brackets :
    ReadsAs "q_1 -> Which *? *= [x=] a- -> A -> (x) [B [1] b] -> ]C [] [c -> d]\nmore".toList
      "quiz" {} "q_1".toList "Which *?".toList true
      (.checkboxSet [⟨"a-", "A -> (x) [B", true, true⟩, ⟨"b]", "]C", false, false⟩,
        ⟨"[c", "d]", false, false⟩]) := by
  let header : WrittenHeader :=
    ⟨"q_1".toList, some "Which *?".toList, true, by decide,
      List.all_eq_true.mp (by decide), by decide⟩
  let choices : List (MarkedChoice .square) := [
    ⟨⟨"a-".toList, "A -> (x) [B".toList, by decide, by decide, by decide⟩, "x=".toList,
      by decide, by decide, by decide⟩,
    ⟨⟨"b]".toList, "]C".toList, by decide, by decide, by decide⟩, "1".toList,
      by decide, by decide, by decide⟩,
    ⟨⟨"[c".toList, "d]".toList, by decide, by decide, by decide⟩, [],
      by decide, by decide, by decide⟩]
  have occupied : choices ≠ [] := List.cons_ne_nil _ _
  have read := readsAs_choiceSet header occupied ["more".toList] "quiz" {}
  have block : joinLines
      ((header.text ++ ' ' :: [' '].intercalate (choices.map written)) :: ["more".toList]) =
      "q_1 -> Which *? *= [x=] a- -> A -> (x) [B [1] b] -> ]C [] [c -> d]\nmore".toList := by
    decide +kernel
  have items : Bracket.square.choiceSet (choices.map fun choice => choice.behind choice.token) =
      .checkboxSet [⟨"a-", "A -> (x) [B", true, true⟩, ⟨"b]", "]C", false, false⟩,
        ⟨"[c", "d]", false, false⟩] := by
    decide +kernel
  rw [block, items] at read
  exact read

end MarkedChoice
end Questionnaire
