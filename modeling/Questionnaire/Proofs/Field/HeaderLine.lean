import Questionnaire.Proofs.Field.Header
import Questionnaire.Proofs.Text.Cut
import Questionnaire.Proofs.Text.Runs

/-! # The grammar of header lines

To the left of its first equals sign a header line has blanks, a word, blanks, and then nothing or an
arrow with any text behind it; a star may end the left part. The reader takes every run as far as it
goes and never goes back. It reads these lines and no others, since no part begins with a character
that could have gone on with the part before it.
-/

namespace Questionnaire
open Text

structure LeftPart where
  lead : List Char
  code : List Char
  gap : List Char
  /-- The text behind the arrow, if there is an arrow. -/
  name? : Option (List Char)
  starred : Bool

namespace LeftPart

def arrow : Option (List Char) → List Char
  | none => []
  | some name => '-' :: '>' :: name

def body (left : LeftPart) : List Char := left.lead ++ left.code ++ left.gap ++ arrow left.name?

def starText (starred : Bool) : List Char := if starred then ['*'] else []

def text (left : LeftPart) : List Char := left.body ++ starText left.starred

/-- The name that is shown: the one behind the arrow, unless it is blank, and the code otherwise. -/
def shownName (left : LeftPart) : List Char :=
  match trim (left.name?.getD []) with
  | [] => left.code
  | name => name

/-- The pieces are what they should be. An equals sign would end the left part, and a star at the
end belongs to no other piece. -/
structure Valid (left : LeftPart) : Prop where
  lead_blank : ∀ c ∈ left.lead, isBlank c = true
  code_ne_nil : left.code ≠ []
  code_word : ∀ c ∈ left.code, isWord c = true
  gap_blank : ∀ c ∈ left.gap, isBlank c = true
  equals_not_mem : '=' ∉ left.text
  star_taken : left.starred = false → left.body.getLast? ≠ some '*'

instance (left : LeftPart) : Decidable left.Valid :=
  decidable_of_iff
    (left.lead.all isBlank = true ∧ left.code ≠ [] ∧ left.code.all isWord = true ∧
      left.gap.all isBlank = true ∧ '=' ∉ left.text ∧
      (left.starred = false → left.body.getLast? ≠ some '*')) <| by
    simp only [List.all_eq_true]
    exact ⟨fun ⟨lead, occupied, word, gap, equals, star⟩ => ⟨lead, occupied, word, gap, equals, star⟩,
      fun h => ⟨h.lead_blank, h.code_ne_nil, h.code_word, h.gap_blank, h.equals_not_mem,
        h.star_taken⟩⟩

/-! ## Reading a left part -/

theorem cutStar_text {left : LeftPart} (h : left.Valid) :
    cutStar left.text = (left.body, left.starred) := by
  unfold cutStar cutLast text
  cases starred : left.starred with
  | true => simp [starText]
  | false => simp [starText, h.star_taken starred]

theorem head?_arrow {p : Char → Bool} (dash : p '-' = false) (name? : Option (List Char)) :
    ∀ c ∈ (arrow name?).head?, p c = false := by
  intro c hc
  cases name? with
  | none => cases hc
  | some name => cases hc; exact dash

theorem head?_behind_code {left : LeftPart} (h : left.Valid) :
    ∀ c ∈ (left.gap ++ arrow left.name?).head?, isWord c = false := by
  apply stop_append
  · intro c hc
    exact isWord_of_isBlank (h.gap_blank c (List.mem_of_mem_head? hc))
  · exact head?_arrow (by decide) left.name?

theorem read?_text {left : LeftPart} (h : left.Valid) :
    HeaderLeft.read? left.text = some ⟨left.code, trim (left.name?.getD []), left.starred⟩ := by
  have start : trimStart left.body = left.code ++ (left.gap ++ arrow left.name?) := by
    rw [body, List.append_assoc, List.append_assoc]
    apply dropWhile_run h.lead_blank
    intro c hc
    cases code : left.code with
    | nil => exact absurd code h.code_ne_nil
    | cons d rest =>
      rw [code] at hc
      cases hc
      exact isBlank_of_isWord (h.code_word c (by simp [code]))
  have gap : trimStart (left.gap ++ arrow left.name?) = arrow left.name? :=
    dropWhile_run h.gap_blank (head?_arrow (by decide) left.name?)
  unfold HeaderLeft.read?
  simp only [cutStar_text h, start, takeWhile_run h.code_word (head?_behind_code h),
    dropWhile_run h.code_word (head?_behind_code h), gap]
  rw [if_neg (by simpa using h.code_ne_nil)]
  cases left.name? with
  | none => rfl
  | some name => rfl

/-- What is left of a text when a star has been taken off its end. -/
theorem cutStar_eq {text body : List Char} {starred : Bool} (h : cutStar text = (body, starred)) :
    text = body ++ starText starred ∧ (starred = false → body.getLast? ≠ some '*') := by
  unfold cutStar cutLast at h
  by_cases last : text.getLast? = some '*'
  · rw [if_pos last] at h
    cases h
    refine ⟨?_, by simp⟩
    obtain ⟨front, rfl⟩ := List.getLast?_eq_some_iff.mp last
    simp [starText]
  · rw [if_neg last] at h
    cases h
    exact ⟨by simp [starText], fun _ => last⟩

theorem exists_of_read? {text : List Char} {read : HeaderLeft} (equals : '=' ∉ text)
    (h : HeaderLeft.read? text = some read) :
    ∃ left : LeftPart, left.Valid ∧ left.text = text ∧
      read = ⟨left.code, trim (left.name?.getD []), left.starred⟩ := by
  -- the reader's own cuts are the pieces
  cases cut : cutStar text with
  | mk body starred =>
    obtain ⟨whole, star⟩ := cutStar_eq cut
    obtain ⟨lead, start, hb, blank, leadStop⟩ := exists_run isBlank body
    obtain ⟨code, behind, hs, word, codeStop⟩ := exists_run isWord start
    obtain ⟨gap, tail, ht, gapBlank, gapStop⟩ := exists_run isBlank behind
    unfold HeaderLeft.read? at h
    simp only [cut, hb, trimStart, dropWhile_run blank leadStop] at h
    simp only [hs, takeWhile_run word codeStop, dropWhile_run word codeStop] at h
    simp only [ht, dropWhile_run gapBlank gapStop] at h
    split at h
    · cases h
    · rename_i occupied
      have codeNe : code ≠ [] := by simpa using occupied
      have pieces : ∀ name?, tail = arrow name? →
          (⟨lead, code, gap, name?, starred⟩ : LeftPart).Valid ∧
            (⟨lead, code, gap, name?, starred⟩ : LeftPart).text = text := by
        intro name? he
        have same : (⟨lead, code, gap, name?, starred⟩ : LeftPart).text = text := by
          rw [whole, hb, hs, ht, he]
          simp [LeftPart.text, LeftPart.body]
        refine ⟨⟨blank, codeNe, word, gapBlank, by rwa [same], ?_⟩, same⟩
        intro off
        have := star off
        rw [hb, hs, ht, he] at this
        simpa [LeftPart.body] using this
      split at h
      · cases h
        obtain ⟨valid, same⟩ := pieces none rfl
        exact ⟨_, valid, same, rfl⟩
      · rename_i name
        cases h
        obtain ⟨valid, same⟩ := pieces (some name) rfl
        exact ⟨_, valid, same, rfl⟩
      · cases h

end LeftPart

/-! ## Reading a line -/

namespace FieldHeader

def ofParts (line scope : String) (left : LeftPart) (rhs : List Char) : FieldHeader where
  id := scope ++ "_" ++ String.ofList left.code
  code := String.ofList left.code
  name := String.ofList left.shownName
  required := left.starred
  rhs := String.ofList (trim rhs)
  source := line

theorem ofParts_eq (line scope : String) (left : LeftPart) (rhs : List Char) :
    ofParts line scope left rhs = {
      id := scope ++ "_" ++ String.ofList left.code
      code := String.ofList left.code
      name := if (trim (left.name?.getD [])).isEmpty then String.ofList left.code
        else String.ofList (trim (left.name?.getD []))
      required := left.starred
      rhs := String.ofList (trim rhs)
      source := line } := by
  unfold ofParts LeftPart.shownName
  cases trim (left.name?.getD []) <;> rfl

/-- A line that is read has the pieces of a left part before its first equals sign. -/
theorem exists_parts_of_read? {line scope : String} {header : FieldHeader}
    (h : read? line scope = some header) :
    ∃ (left : LeftPart) (rhs : List Char), left.Valid ∧ isOneLine rhs = true ∧
      line.toList = left.text ++ '=' :: rhs ∧ header = ofParts line scope left rhs := by
  unfold read? at h
  obtain ⟨⟨leftText, rhs⟩, cut, h⟩ := Option.bind_eq_some_iff.mp h
  obtain ⟨_, passed, h⟩ := Option.bind_eq_some_iff.mp h
  obtain ⟨read, hr, h⟩ := Option.bind_eq_some_iff.mp h
  obtain ⟨whole, equals⟩ := cutAt_eq_some cut
  obtain ⟨left, valid, rfl, rfl⟩ := LeftPart.exists_of_read? equals hr
  have oneLine : isOneLine rhs = true := by
    by_contra off
    exact absurd (passed.symm.trans (if_neg off)) (by simp)
  refine ⟨left, rhs, valid, oneLine, whole, ?_⟩
  rw [ofParts_eq]
  exact (Option.some.inj h).symm

theorem read?_of_parts {line : String} {left : LeftPart} {rhs : List Char} (valid : left.Valid)
    (whole : line.toList = left.text ++ '=' :: rhs) (one : isOneLine rhs = true) (scope : String) :
    read? line scope = some (ofParts line scope left rhs) := by
  have passed : (guard (isOneLine rhs = true) : Option Unit) = some () := if_pos one
  rw [read?, whole, cutAt_append valid.equals_not_mem, Option.bind_eq_bind, Option.bind_some]
  dsimp only
  rw [passed, LeftPart.read?_text valid, ofParts_eq]
  rfl

theorem code_of_read? {line scope : String} {header : FieldHeader}
    (h : read? line scope = some header) :
    header.code ≠ "" ∧ ∀ c ∈ header.code.toList, isWord c = true := by
  obtain ⟨left, rhs, valid, -, -, rfl⟩ := exists_parts_of_read? h
  exact ⟨by simpa [ofParts] using valid.code_ne_nil, by simpa [ofParts] using valid.code_word⟩

theorem code_of_readBlock? {block scope : String} {header : FieldHeader} {body : List String}
    (h : readBlock? block scope = some (header, body)) :
    header.code ≠ "" ∧ ∀ c ∈ header.code.toList, isWord c = true := by
  obtain ⟨line, rest, read, -, hr, rfl, -⟩ := exists_read?_of_readBlock? h
  have code := code_of_read? hr
  exact code

/-- **The reader accepts header lines and nothing else.** A line is read just where it has an equals
sign and what stands before the first one has the pieces of a left part, and the header says what
these pieces say. The code is never empty and has no blank in it. -/
theorem read?_eq_some_iff_parts {line : String} (oneLine : '\n' ∉ line.toList) (scope : String)
    (header : FieldHeader) :
    (read? line scope = some header ↔
      ∃ (left : LeftPart) (rhs : List Char), left.Valid ∧
        line.toList = left.text ++ '=' :: rhs ∧ header = ofParts line scope left rhs) ∧
    (read? line scope = some header →
      header.code ≠ "" ∧ ∀ c ∈ header.code.toList, isWord c = true ∧ isBlank c = false) := by
  refine ⟨⟨fun h => ?_, ?_⟩, fun h => ?_⟩
  · obtain ⟨left, rhs, valid, -, parts⟩ := exists_parts_of_read? h
    exact ⟨left, rhs, valid, parts⟩
  · rintro ⟨left, rhs, valid, whole, rfl⟩
    apply read?_of_parts valid whole
    rw [whole] at oneLine
    simpa [isOneLine] using fun hm => oneLine (by simp [hm])
  · obtain ⟨occupied, word⟩ := code_of_read? h
    exact ⟨occupied, fun c hc => ⟨word c hc, isBlank_of_isWord (word c hc)⟩⟩

/-- Behind the arrow only the last star and the first equals sign count. -/
theorem read?_eq_some_iff_parts_two_stars :
    read? "\tq_1 -> a -> b **= x = y " "quiz" =
      some ⟨"quiz_q_1", "q_1", "a -> b *", true, "x = y", "\tq_1 -> a -> b **= x = y "⟩ := by
  have accepted := @read?_eq_some_iff_parts "\tq_1 -> a -> b **= x = y " (by decide) "quiz"
    ⟨"quiz_q_1", "q_1", "a -> b *", true, "x = y", "\tq_1 -> a -> b **= x = y "⟩
  refine accepted.1.mpr ⟨⟨['\t'], "q_1".toList, [' '], some " a -> b *".toList, true⟩,
    " x = y ".toList, ⟨List.all_eq_true.mp ?_, ?_, List.all_eq_true.mp ?_,
      List.all_eq_true.mp ?_, ?_, ?_⟩, ?_, ?_⟩
  all_goals decide +kernel

end FieldHeader
end Questionnaire
