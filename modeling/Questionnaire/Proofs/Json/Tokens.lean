import Questionnaire.Proofs.Html.Tokens
import Questionnaire.Proofs.Json.Reader
import Questionnaire.Proofs.Text.Runs

/-! # Written values as tokens

The indented form of a value is cut into the tokens it is made of. A string ends at its last quote
whatever it holds; only a numeral has to be kept apart from a digit that follows it.
-/

namespace Questionnaire.Json

open Text
open Html (readMany_flatMap)

/-! ## Strings -/

theorem controlDigits_value :
    ∀ n < 32, (controlDigits n).length = 2 ∧
      digitsValue? 16 hexValue? (['0', '0'] ++ controlDigits n) = some n := by
  decide

theorem readCode?_control {c : Char} (control : c.toNat < 0x20) (rest : List Char) :
    readCode? (['0', '0'] ++ controlDigits c.toNat ++ rest) = some (c, rest) := by
  obtain ⟨two, value⟩ := controlDigits_value c.toNat control
  have four : (['0', '0'] ++ controlDigits c.toNat).length = 4 := by simp [two]
  have known : 4 ≤ (['0', '0'] ++ controlDigits c.toNat ++ rest).length ∧ c.toNat.isValidChar :=
    ⟨by rw [List.length_append]; omega, c.valid⟩
  rw [readCode?, List.take_left' four, List.drop_left' four, value, Option.bind_eq_bind,
    Option.bind_some, if_pos known, Char.ofNat_toNat]
  rfl

theorem readChar?_stringChar (c : Char) (rest : List Char) :
    readChar? (stringChar c ++ rest) = some (c, rest) := by
  unfold stringChar
  split
  · next h => subst h; rfl
  split
  · next h => subst h; rfl
  split
  · next h => subst h; rfl
  split
  · next h => subst h; rfl
  split
  · next h => subst h; rfl
  split
  · next h => subst h; rfl
  split
  · next h => subst h; rfl
  split
  · next control => exact readCode?_control control rest
  · next quote backslash _ _ _ _ _ control =>
    simp [readChar?, quote, backslash, control]

theorem readString?_body (s : String) (rest : List Char) :
    readString? (s.toList.flatMap stringChar ++ '"' :: rest) = some (.string s, rest) := by
  have chars : Html.readMany readChar? (s.toList.flatMap stringChar ++ '"' :: rest) =
      (s.toList, '"' :: rest) := by
    apply readMany_flatMap
    · intro c _ rest; exact readChar?_stringChar c rest
    · intro c _ he
      have h := readChar?_stringChar c []
      rw [he] at h
      cases h
    · rfl
  rw [readString?, chars]
  simp [afterLead]

/-! ## Numerals -/

def NoDigitFirst (rest : List Char) : Prop := ∀ c ∈ rest.head?, c.isDigit = false

theorem noDigitFirst_cons {c : Char} (h : c.isDigit = false) (rest : List Char) :
    NoDigitFirst (c :: rest) := by
  intro d hd
  cases hd
  exact h

theorem head?_toDigits {n : Nat} (positive : n ≠ 0) : (Nat.toDigits 10 n).head? ≠ some '0' := by
  induction n using Nat.strongRecOn with
  | ind n ih =>
    by_cases small : n < 10
    · rw [Nat.toDigits_of_lt_base small]
      simpa using positive
    · have front := ih (n / 10) (by omega) (by omega)
      rw [Nat.toDigits_of_base_le (by decide) (by omega)]
      cases whole : Nat.toDigits 10 (n / 10) with
      | nil => exact absurd whole Nat.toDigits_ne_nil
      | cons c rest => rwa [whole] at front

theorem readNumber?_toDigits (n : Nat) {rest : List Char} (stop : NoDigitFirst rest) :
    readNumber? (Nat.toDigits 10 n ++ rest) = some (.scalar (.number n), rest) := by
  have digits : ∀ c ∈ Nat.toDigits 10 n, c.isDigit = true := fun c hc =>
    Nat.isDigit_of_mem_toDigits (by decide) (by decide) hc
  rw [readNumber?, takeWhile_run digits stop, dropWhile_run digits stop]
  split
  · next none => exact absurd none Nat.toDigits_ne_nil
  · next first more whole =>
    by_cases zero : n = 0
    · rw [zero] at whole
      cases whole
    · exact absurd (by rw [whole]; rfl) (head?_toDigits zero)
  · rw [Nat.ofDigitChars_ten_toDigits]

/-! ## Tokens -/

theorem tokens?_nil : tokens? [] = some [] := by
  rw [tokens?, Html.readAll?, Html.readMany]
  rfl

/-- White space may stand before any token. -/
theorem tokens?_space {space : List Char} (h : ∀ c ∈ space, isSpace c = true) (rest : List Char) :
    tokens? (space ++ rest) = tokens? rest := by
  rw [tokens?, tokens?, skipSpace, List.dropWhile_append_of_pos h]
  rfl

theorem tokens?_newLine (depth : Nat) (rest : List Char) :
    tokens? (newLine depth ++ rest) = tokens? rest := by
  apply tokens?_space
  intro c hc
  rcases List.mem_cons.mp hc with rfl | hc
  · rfl
  · rw [List.eq_of_mem_replicate hc]
    rfl

/-- A text that begins with a token has this token before those of the rest. -/
theorem tokens?_scan {c : Char} {written rest : List Char} {token : Token}
    (scanned : scan? (c :: written ++ rest) = some (token, rest)) (dense : isSpace c = false) :
    tokens? (c :: written ++ rest) = (tokens? rest).map (token :: ·) := by
  have whole : skipSpace (c :: written ++ rest) = c :: written ++ rest :=
    List.dropWhile_cons_of_neg (by simp [dense])
  have shorter : (skipSpace rest).length < (c :: written ++ rest).length := by
    have kept : (skipSpace rest).length ≤ rest.length := (List.dropWhile_suffix isSpace).length_le
    simp only [List.length_append, List.length_cons]
    omega
  rw [tokens?, whole, Html.readAll?, Html.readMany]
  simp only [scanned, Option.map_some, if_pos shorter]
  rw [tokens?, Html.readAll?]
  generalize Html.readMany _ (skipSpace rest) = read
  obtain ⟨pieces, left⟩ := read
  cases left <;> rfl

theorem tokens?_mark {c : Char} (h : c ∈ marks) (rest : List Char) :
    tokens? (c :: rest) = (tokens? rest).map (.mark c :: ·) := by
  have apart : marks.all (fun d => !isSpace d) = true := by decide
  have dense : isSpace c = false := by simpa using List.all_eq_true.mp apart c h
  have scanned : scan? (c :: [] ++ rest) = some (.mark c, rest) := if_pos h
  exact tokens?_scan scanned dense

/-- The mark that closes an array or object stands on a line of its own. -/
theorem tokens?_closing {c : Char} (h : c ∈ marks) (depth : Nat) (rest : List Char) :
    tokens? (newLine depth ++ c :: rest) = (tokens? rest).map (.mark c :: ·) := by
  rw [tokens?_newLine, tokens?_mark h]

theorem tokens?_string (s : String) (rest : List Char) :
    tokens? (writeString s ++ rest) = (tokens? rest).map (.string s :: ·) := by
  have scanned : scan? (writeString s ++ rest) = some (.string s, rest) := by
    have body := readString?_body s rest
    rw [writeString, List.append_assoc, List.cons_append, List.singleton_append, scan?]
    rw [if_neg (by decide), if_pos rfl, body]
  exact tokens?_scan scanned (by decide)

theorem tokens?_name (name : String) (rest : List Char) :
    tokens? (writeString name ++ ':' :: ' ' :: rest) =
      (tokens? rest).map (.string name :: .mark ':' :: ·) := by
  have space : tokens? ([' '] ++ rest) = tokens? rest := tokens?_space (by simp [isSpace]) rest
  rw [tokens?_string, tokens?_mark (by decide), ← List.singleton_append, space, Option.map_map]
  rfl

theorem tokens?_word {word : String} {value : Json} (h : (word, value) ∈ words)
    (rest : List Char) :
    tokens? (word.toList ++ rest) = (tokens? rest).map (.scalar value :: ·) := by
  simp only [words, List.mem_cons, List.not_mem_nil, or_false, Prod.mk.injEq] at h
  rcases h with ⟨rfl, rfl⟩ | ⟨rfl, rfl⟩ | ⟨rfl, rfl⟩
  · have scanned : scan? ("null".toList ++ rest) = some (.scalar .null, rest) := rfl
    exact tokens?_scan scanned (by decide)
  · have scanned : scan? ("true".toList ++ rest) = some (.scalar (.bool true), rest) := rfl
    exact tokens?_scan scanned (by decide)
  · have scanned : scan? ("false".toList ++ rest) = some (.scalar (.bool false), rest) := rfl
    exact tokens?_scan scanned (by decide)

/-- No other token begins with a digit. -/
theorem scan?_digit {c : Char} (digit : c.isDigit = true) (rest : List Char) :
    scan? (c :: rest) = readNumber? (c :: rest) := by
  have apart : ('"' :: 'n' :: 't' :: 'f' :: marks).all (fun d => !d.isDigit) = true := by decide
  have other : ∀ d ∈ '"' :: 'n' :: 't' :: 'f' :: marks, c ≠ d := by
    rintro d hm rfl
    have none : c.isDigit = false := by simpa using List.all_eq_true.mp apart c hm
    rw [none] at digit
    cases digit
  have word : readWord? (c :: rest) = none := by
    have hn := other 'n' (by simp)
    have ht := other 't' (by simp)
    have hf := other 'f' (by simp)
    simp [readWord?, words, afterLead, hn.symm, ht.symm, hf.symm]
  have mark : c ∉ marks := fun hm => other c (by simp [hm]) rfl
  rw [scan?, if_neg mark, if_neg (other '"' (by simp)), word, Option.none_or]

theorem tokens?_number (n : Nat) {rest : List Char} (stop : NoDigitFirst rest) :
    tokens? ((toString n).toList ++ rest) = (tokens? rest).map (.scalar (.number n) :: ·) := by
  have number := readNumber?_toDigits n stop
  rw [Nat.toString_eq_ofList_toDigits, String.toList_ofList]
  cases digits : Nat.toDigits 10 n with
  | nil => exact absurd digits Nat.toDigits_ne_nil
  | cons c more =>
    have digit : c.isDigit = true :=
      @Nat.isDigit_of_mem_toDigits 10 n c (by decide) (by decide) (by simp [digits])
    have dense : isSpace c = false := by
      cases space : isSpace c with
      | false => rfl
      | true =>
        simp only [isSpace, Bool.or_eq_true, decide_eq_true_eq] at space
        rcases space with ((rfl | rfl) | rfl) | rfl <;> cases digit
    rw [digits] at number
    exact tokens?_scan ((scan?_digit digit _).trans number) dense

/-! ## Values -/

mutual
def tokens : Json → List Token
  | null => [.scalar .null]
  | bool b => [.scalar (.bool b)]
  | number n => [.scalar (.number n)]
  | string s => [.string s]
  | array [] => [.mark '[', .mark ']']
  | array (item :: rest) => .mark '[' :: tokens item ++ itemTokens rest ++ [.mark ']']
  | object [] => [.mark '{', .mark '}']
  | object ((name, value) :: rest) =>
    .mark '{' :: .string name :: .mark ':' :: tokens value ++ memberTokens rest ++ [.mark '}']

def itemTokens : List Json → List Token
  | [] => []
  | item :: rest => .mark ',' :: tokens item ++ itemTokens rest

def memberTokens : List (String × Json) → List Token
  | [] => []
  | (name, value) :: rest =>
    .mark ',' :: .string name :: .mark ':' :: tokens value ++ memberTokens rest
end

theorem NoDigitFirst.writeItems {rest : List Char} (stop : NoDigitFirst rest) (depth : Nat)
    (items : List Json) : NoDigitFirst (writeItems depth items ++ rest) := by
  cases items with
  | nil => exact stop
  | cons item items => exact noDigitFirst_cons rfl _

theorem NoDigitFirst.writeMembers {rest : List Char} (stop : NoDigitFirst rest) (depth : Nat)
    (members : List (String × Json)) : NoDigitFirst (writeMembers depth members ++ rest) := by
  cases members with
  | nil => exact stop
  | cons member members => exact noDigitFirst_cons rfl _

mutual
/-- A written value is cut into its tokens, unless it is a numeral and a digit follows. -/
theorem tokens?_write (depth : Nat) (json : Json) {rest : List Char} (stop : NoDigitFirst rest) :
    tokens? (write depth json ++ rest) = (tokens? rest).map (json.tokens ++ ·) := by
  -- `stop` is for numerals alone: inside an array or object a comma or a line feed follows them
  cases json with
  | null => exact tokens?_word (by simp [words]) rest
  | bool b => cases b <;> exact tokens?_word (by simp [words]) rest
  | number n => exact tokens?_number n stop
  | string s => exact tokens?_string s rest
  | array items =>
    cases items with
    | nil =>
      rw [write, List.cons_append, List.singleton_append, tokens?_mark (by decide),
        tokens?_mark (by decide), Option.map_map]
      rfl
    | cons item items =>
      have stopped : NoDigitFirst (newLine depth ++ ']' :: rest) := noDigitFirst_cons rfl _
      have behind := tokens?_writeItems (depth + 1) items stopped
      have first := tokens?_write (depth + 1) item (stopped.writeItems (depth + 1) items)
      simp only [write, List.append_assoc, List.cons_append, List.nil_append]
      rw [tokens?_mark (by decide), tokens?_newLine, first, behind, tokens?_closing (by decide)]
      simp [tokens, Option.map_map, Function.comp_def]
  | object members =>
    cases members with
    | nil =>
      rw [write, List.cons_append, List.singleton_append, tokens?_mark (by decide),
        tokens?_mark (by decide), Option.map_map]
      rfl
    | cons member members =>
      obtain ⟨name, value⟩ := member
      have stopped : NoDigitFirst (newLine depth ++ '}' :: rest) := noDigitFirst_cons rfl _
      have behind := tokens?_writeMembers (depth + 1) members stopped
      have first := tokens?_write (depth + 1) value (stopped.writeMembers (depth + 1) members)
      simp only [write, List.append_assoc, List.cons_append, List.nil_append]
      rw [tokens?_mark (by decide), tokens?_newLine, tokens?_name, first, behind,
        tokens?_closing (by decide)]
      simp [tokens, Option.map_map, Function.comp_def]

theorem tokens?_writeItems (depth : Nat) (items : List Json) {rest : List Char}
    (stop : NoDigitFirst rest) :
    tokens? (writeItems depth items ++ rest) = (tokens? rest).map (itemTokens items ++ ·) := by
  cases items with
  | nil => simp [writeItems, itemTokens]
  | cons item items =>
    have behind := tokens?_writeItems depth items stop
    have first := tokens?_write depth item (stop.writeItems depth items)
    simp only [writeItems, List.append_assoc, List.cons_append]
    rw [tokens?_mark (by decide), tokens?_newLine, first, behind]
    simp [itemTokens, Option.map_map, Function.comp_def]

theorem tokens?_writeMembers (depth : Nat) (members : List (String × Json)) {rest : List Char}
    (stop : NoDigitFirst rest) :
    tokens? (writeMembers depth members ++ rest) =
      (tokens? rest).map (memberTokens members ++ ·) := by
  cases members with
  | nil => simp [writeMembers, memberTokens]
  | cons member members =>
    obtain ⟨name, value⟩ := member
    have behind := tokens?_writeMembers depth members stop
    have first := tokens?_write depth value (stop.writeMembers depth members)
    simp only [writeMembers, List.append_assoc, List.cons_append]
    rw [tokens?_mark (by decide), tokens?_newLine, tokens?_name, first, behind]
    simp [memberTokens, Option.map_map, Function.comp_def]
end

end Questionnaire.Json
