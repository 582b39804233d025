import Questionnaire.Proofs.Field.Written

/-! # Inline selects are read back

The options stand between the first brace and the last one, and commas part them, whatever brackets
they are in. Of the brackets around an option one pair is taken off.
-/

namespace Questionnaire
open Text

/-- An option of an inline select as an author writes it. A bare option must not look like one in
brackets. -/
structure SelectToken extends WrittenChoice where
  wrapping : Option Bracket
  value_comma : ',' ∉ value
  label_comma : ',' ∉ label
  bare : wrapping = none → ∀ bracket : Bracket,
    ¬ (toWrittenChoice.text.head? = some bracket.opening ∧
      toWrittenChoice.text.getLast? = some bracket.closing)

/-! ## Brackets around an option -/

theorem unwrap?_around (bracket : Bracket) (text : List Char) :
    unwrap? (bracket.around text) = some (trim text) := by
  simp [Bracket.around, unwrap?, Bracket.ofOpening?_opening, cutLast_append]

theorem of_unwrap? {text inner : List Char} (h : unwrap? text = some inner) :
    ∃ (bracket : Bracket) (held : List Char), text = bracket.around held ∧ inner = trim held := by
  cases text with
  | nil => cases h
  | cons c rest =>
    cases kind : Bracket.ofOpening? c with
    | none => simp [unwrap?, kind] at h
    | some bracket =>
      cases cut : cutLast bracket.closing rest with
      | none => simp [unwrap?, kind, cut] at h
      | some held =>
        simp only [unwrap?, kind, cut, Option.bind_eq_bind, Option.bind_some] at h
        cases h
        refine ⟨bracket, held, ?_, rfl⟩
        rw [Bracket.of_ofOpening? kind, cutLast_eq_some cut, Bracket.around, List.cons_append]

theorem unwrap?_eq_none {text : List Char}
    (bare : ∀ bracket : Bracket,
      ¬ (text.head? = some bracket.opening ∧ text.getLast? = some bracket.closing)) :
    unwrap? text = none := by
  cases text with
  | nil => rfl
  | cons c rest =>
    cases kind : Bracket.ofOpening? c with
    | none => simp [unwrap?, kind]
    | some bracket =>
      have open' : rest.getLast? ≠ some bracket.closing := by
        intro closed
        refine bare bracket ⟨by rw [Bracket.of_ofOpening? kind, List.head?_cons], ?_⟩
        rw [List.getLast?_cons, closed, Option.getD_some]
      simp [unwrap?, kind, cutLast, open']

namespace SelectToken

def written (token : SelectToken) : List Char := wrap token.wrapping token.text

/-- The choice that is meant. Either kind of brackets selects it, and none marks a right answer. -/
def choice (token : SelectToken) : Choice :=
  token.meant { selected := token.wrapping.isSome, correct := false }

theorem inlineOption?_written (token : SelectToken) :
    inlineOption? token.written = some token.choice := by
  have occupied : (String.ofList token.value).isEmpty = false := by
    simp [token.value_phrase.ne_nil]
  cases same : token.wrapping with
  | none =>
    have written : token.written = token.text := by rw [written, same, wrap]
    rw [inlineOption?, written, unwrap?_eq_none (token.bare same)]
    simp [token.ofText_text, WrittenChoice.meant, occupied, choice, same]
  | some bracket =>
    have written : token.written = bracket.around token.text := by rw [written, same, wrap]
    rw [inlineOption?, written, unwrap?_around, token.text_phrase.trim_eq]
    simp [token.ofText_text, WrittenChoice.meant, occupied, choice, same]

theorem written_phrase (token : SelectToken) : IsPhrase token.written :=
  wrap_phrase token.wrapping token.text_phrase

theorem comma_not_mem_written (token : SelectToken) : ',' ∉ token.written := by
  have text : ',' ∉ token.text := by
    simp [WrittenChoice.text, token.value_comma, token.label_comma]
  unfold written
  cases token.wrapping with
  | none => exact text
  | some bracket =>
    cases bracket <;> simp [wrap, Bracket.around, Bracket.opening, Bracket.closing, text]

def joined (offered : List SelectToken) : List Char := [',', ' '].intercalate (offered.map written)

theorem feed_not_mem_joined (offered : List SelectToken) : '\n' ∉ joined offered := by
  by_cases empty : offered = []
  · simp [joined, empty]
  · refine (IsPhrase.intercalate (by decide) ?_ (by simpa using empty)).feed_not_mem
    simpa using fun token _ => token.written_phrase

theorem inlineOptions_joined (offered : List SelectToken) :
    inlineOptions (joined offered) = offered.map choice := by
  by_cases empty : offered = []
  · rw [empty]
    rfl
  · have free : ∀ piece ∈ offered.map written, ',' ∉ piece := by
      simpa using fun token _ => token.comma_not_mem_written
    have pieces : (splitAt ',' (joined offered)).map trim = (offered.map written).map trim :=
      map_trim_splitAt_intercalate (by simp [isBlank]) (by decide) free (by simpa using empty)
    rw [inlineOptions, pieces, List.map_map, List.filterMap_map, ← List.filterMap_eq_map]
    apply List.filterMap_congr
    intro token _
    simp [token.written_phrase.trim_eq, token.written_phrase.ne_nil, inlineOption?_written]

end SelectToken

theorem inBraces?_braces {inner : List Char} (free : '\n' ∉ inner) :
    Rule.inBraces? ('{' :: inner ++ ['}']) = some inner := by
  have passed : (guard (isOneLine inner = true) : Option Unit) = some () :=
    if_pos (by simpa [isOneLine] using free)
  rw [List.cons_append, Rule.inBraces?, cutLast_append, Option.bind_eq_bind, Option.bind_some,
    passed]
  rfl

/-- **An inline select is read back.** Under any header its options are those between the braces, in
their order. -/
theorem readsAs_inlineSelect {left : LeftPart} (valid : left.Valid) (free : '\n' ∉ left.text)
    {gap : List Char} (isGap : IsGap gap) (offered : List SelectToken) (below : List (List Char))
    (scope : String) (options : FieldOptions) :
    ReadsAs
      (joinLines ((left.text ++ '=' :: gap ++
        ('{' :: [',', ' '].intercalate (offered.map SelectToken.written) ++ ['}'])) :: below))
      scope options left.code left.shownName left.starred
      (.inlineSelect (offered.map SelectToken.choice)) := by
  have inside := SelectToken.feed_not_mem_joined offered
  have phrase : IsPhrase ('{' :: SelectToken.joined offered ++ ['}']) :=
    .enclosed (by decide) (by decide) (by simp [inside])
  refine readsAs_of_phrase valid free isGap phrase (fun header => ?_) scope
  rw [Rule.firstAnswer_inlineSelect (inBraces?_braces inside), SelectToken.inlineOptions_joined]

/-- Braces, brackets and arrows inside an option stay where they are. -/
theorem readsAs_inlineSelect_nested :
    ReadsAs "to -> Go =\x7b(a\x7d -> b)), [[c] -> \x7bd\x7d], (e -> f -> [g]\x7d".toList
      "quiz" {} "to".toList "Go".toList false
      (.inlineSelect [⟨"a\x7d", "b)", true, false⟩, ⟨"[c]", "\x7bd\x7d", true, false⟩,
        ⟨"(e", "f -> [g]", false, false⟩]) := by
  let left : LeftPart := ⟨[], "to".toList, [' '], some " Go ".toList, false⟩
  have valid : left.Valid := by decide
  let offered : List SelectToken := [
    ⟨⟨"a\x7d".toList, "b)".toList, by decide, by decide, by decide⟩, some .round,
      by decide, by decide, by simp⟩,
    ⟨⟨"[c]".toList, "\x7bd\x7d".toList, by decide, by decide, by decide⟩, some .square,
      by decide, by decide, by simp⟩,
    ⟨⟨"(e".toList, "f -> [g]".toList, by decide, by decide, by decide⟩, none,
      by decide, by decide, fun _ bracket => by cases bracket <;> decide⟩]
  have read := readsAs_inlineSelect valid (by decide) (show IsGap [] by decide) offered []
    "quiz" {}
  have block : joinLines [left.text ++ ['='] ++
      ('{' :: [',', ' '].intercalate (offered.map SelectToken.written) ++ ['}'])] =
      "to -> Go =\x7b(a\x7d -> b)), [[c] -> \x7bd\x7d], (e -> f -> [g]\x7d".toList := by
    decide +kernel
  have name : left.shownName = "Go".toList := by decide
  have choices : offered.map SelectToken.choice =
      [⟨"a\x7d", "b)", true, false⟩, ⟨"[c]", "\x7bd\x7d", true, false⟩,
        ⟨"(e", "f -> [g]", false, false⟩] := by
    decide +kernel
  rw [block, name, choices] at read
  exact read

end Questionnaire
