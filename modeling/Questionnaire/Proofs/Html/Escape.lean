import Questionnaire.Proofs.Html.Tokens

/-! # Escaped strings

The ampersand is replaced first, and no later replacement finds anything in what an earlier one wrote.
So four replacements of a whole string come to one character map, and this map is a way to spell
characters in attribute values as well as in texts.
-/

namespace Questionnaire.Html

def escapeChar (c : Char) : List Char :=
  if c = '&' then "&amp;".toList
  else if c = '<' then "&lt;".toList
  else if c = '>' then "&gt;".toList
  else if c = '"' then "&quot;".toList
  else [c]

theorem replaceChar_flatMap (mark : Char) (entity : String) (f : Char → List Char)
    (text : List Char) :
    replaceChar mark entity (text.flatMap f) = text.flatMap fun c => replaceChar mark entity (f c) :=
  List.flatMap_assoc

/-- A character that is not replaced stays. -/
theorem replaceChar_singleton {mark c : Char} (h : c ≠ mark) (entity : String) :
    replaceChar mark entity [c] = [c] := by
  simp [replaceChar, h]

theorem escapeChars_eq_flatMap (text : List Char) : escapeChars text = text.flatMap escapeChar := by
  have one : ∀ c, replaceChar '"' "&quot;" (replaceChar '>' "&gt;" (replaceChar '<' "&lt;"
      (if c = '&' then "&amp;".toList else [c]))) = escapeChar c := by
    intro c
    unfold escapeChar
    by_cases amp : c = '&'
    · rw [if_pos amp, if_pos amp]
      rfl
    by_cases lt : c = '<'
    · rw [lt]
      rfl
    by_cases gt : c = '>'
    · rw [gt]
      rfl
    by_cases quote : c = '"'
    · rw [quote]
      rfl
    · rw [if_neg amp, if_neg amp, if_neg lt, if_neg gt, if_neg quote, replaceChar_singleton lt,
        replaceChar_singleton gt, replaceChar_singleton quote]
  have first : replaceChar '&' "&amp;" text =
      text.flatMap fun c => if c = '&' then "&amp;".toList else [c] := rfl
  rw [escapeChars, first, replaceChar_flatMap, replaceChar_flatMap, replaceChar_flatMap,
    funext one]

theorem escape_eq_flatMap (text : String) :
    escape text = String.ofList (text.toList.flatMap escapeChar) := by
  rw [escape, escapeChars_eq_flatMap]

section

variable (c : Char)

theorem readChar?_escapeChar (rest : List Char) :
    readChar? (escapeChar c ++ rest) = some (c, rest) := by
  unfold escapeChar
  split
  · next h => subst h; rfl
  split
  · next h => subst h; rfl
  split
  · next h => subst h; rfl
  split
  · next h => subst h; rfl
  · next h _ _ _ => rw [List.singleton_append, readChar?, if_neg h]

theorem all_escapeChar : (escapeChar c).all fun d => d ≠ '<' ∧ d ≠ '>' ∧ d ≠ '"' := by
  unfold escapeChar
  split
  · decide
  split
  · decide
  split
  · decide
  split
  · decide
  · next lt gt quote => simp [lt, gt, quote]

/-- What could end a text or an attribute value is not written. -/
theorem ne_of_mem_escapeChar {d : Char} (h : d ∈ escapeChar c) : d ≠ '<' ∧ d ≠ '>' ∧ d ≠ '"' :=
  of_decide_eq_true (List.all_eq_true.mp (all_escapeChar c) d h)

theorem head_escapeChar : ∃ d written, escapeChar c = d :: written ∧ d ≠ '<' := by
  cases hw : escapeChar c with
  | nil =>
    have h := readChar?_escapeChar c []
    rw [hw] at h
    cases h
  | cons d written => exact ⟨d, written, rfl, (ne_of_mem_escapeChar c (by simp [hw])).1⟩

end

def Spelling.ofPages : Spelling where
  inValue := escapeChar
  inText := escapeChar
  reads_inValue := readChar?_escapeChar
  reads_inText := readChar?_escapeChar
  quote_not_mem := fun c hm => (ne_of_mem_escapeChar c hm).2.2 rfl
  head_inText := head_escapeChar

/-- The text that an escaped string stands for. -/
def decode? (written : String) : Option String :=
  (readAll? readChar? written.toList).map String.ofList

theorem decode?_escape (text : String) : decode? (escape text) = some text := by
  have read : readAll? readChar? (text.toList.flatMap escapeChar) = some text.toList :=
    Spelling.ofPages.readAll?_inValue text.toList
  rw [decode?, escape_eq_flatMap, String.toList_ofList, read, Option.map_some, String.ofList_toList]

theorem ne_of_mem_escape {text : String} {d : Char} (h : d ∈ (escape text).toList) :
    d ≠ '<' ∧ d ≠ '>' ∧ d ≠ '"' := by
  rw [escape_eq_flatMap, String.toList_ofList] at h
  obtain ⟨c, -, hd⟩ := List.mem_flatMap.mp h
  exact ne_of_mem_escapeChar c hd

end Questionnaire.Html
