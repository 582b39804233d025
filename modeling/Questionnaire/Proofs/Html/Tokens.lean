import Questionnaire.Proofs.Html.Reader
import Questionnaire.Proofs.Text.Cut

/-! # Written tokens read back

Escaping is undone character by character. So a tag with arbitrary values in its attributes, or a
character of a text, is read as the token it was written for, whatever follows it. This holds for
every way to spell the characters that cannot be taken for something else.
-/

namespace Questionnaire.Html

open Text

/-! ## Characters -/

section

variable (c : Char) (rest : List Char)

theorem readChar?_textChar : readChar? (textChar c ++ rest) = some (c, rest) := by
  unfold textChar
  split
  · next h => subst h; rfl
  split
  · next h => subst h; rfl
  split
  · next h => subst h; rfl
  split
  · next h => subst h; rfl
  · next h _ _ _ => rw [List.singleton_append, readChar?, if_neg h]

theorem readChar?_attributeChar : readChar? (attributeChar c ++ rest) = some (c, rest) := by
  unfold attributeChar
  split
  · next h => subst h; rfl
  split
  · next h => subst h; rfl
  split
  · next h => subst h; rfl
  · next h _ _ => rw [List.singleton_append, readChar?, if_neg h]

/-- No character of a text is written as the beginning of a tag. -/
theorem head_textChar : ∃ d written, textChar c = d :: written ∧ d ≠ '<' := by
  unfold textChar
  split
  · exact ⟨'&', _, rfl, by decide⟩
  split
  · exact ⟨'&', _, rfl, by decide⟩
  split
  · exact ⟨'&', _, rfl, by decide⟩
  split
  · exact ⟨'&', _, rfl, by decide⟩
  · next h _ => exact ⟨c, [], rfl, h⟩

/-- No character of an attribute value is written as the end of it. -/
theorem quote_not_mem_attributeChar : '"' ∉ attributeChar c := by
  unfold attributeChar
  split
  · decide
  split
  · decide
  split
  · decide
  · next h => rw [List.mem_singleton]; exact Ne.symm h

end

/-- Ways to write the characters of attribute values and of texts that are read as these characters
and end neither the value nor the text. -/
structure Spelling where
  inValue : Char → List Char
  inText : Char → List Char
  reads_inValue : ∀ c rest, readChar? (inValue c ++ rest) = some (c, rest)
  reads_inText : ∀ c rest, readChar? (inText c ++ rest) = some (c, rest)
  quote_not_mem : ∀ c, '"' ∉ inValue c
  head_inText : ∀ c, ∃ d written, inText c = d :: written ∧ d ≠ '<'

def Spelling.ofTrees : Spelling where
  inValue := attributeChar
  inText := textChar
  reads_inValue := readChar?_attributeChar
  reads_inText := readChar?_textChar
  quote_not_mem := quote_not_mem_attributeChar
  head_inText := head_textChar

/-! ## Pieces -/

section

variable {α : Type} {step : List Char → Option (α × List Char)} {write : α → List Char}
  {pieces : List α}

/-- Pieces of which each is read whatever follows are read one behind the other. -/
theorem readMany_flatMap {rest : List Char}
    (reads : ∀ piece ∈ pieces, ∀ rest, step (write piece ++ rest) = some (piece, rest))
    (occupied : ∀ piece ∈ pieces, write piece ≠ []) (ends : step rest = none) :
    readMany step (pieces.flatMap write ++ rest) = (pieces, rest) := by
  induction pieces with
  | nil => rw [List.flatMap_nil, List.nil_append, readMany, ends]
  | cons piece pieces ih =>
    have shorter : (pieces.flatMap write ++ rest).length <
        (write piece ++ (pieces.flatMap write ++ rest)).length := by
      have := List.length_pos_iff.mpr (occupied piece (by simp))
      simp only [List.length_append]
      omega
    rw [List.flatMap_cons, List.append_assoc, readMany, reads piece (by simp)]
    simp only [if_pos shorter]
    rw [ih (fun p hp => reads p (by simp [hp])) (fun p hp => occupied p (by simp [hp]))]

theorem readAll?_flatMap
    (reads : ∀ piece ∈ pieces, ∀ rest, step (write piece ++ rest) = some (piece, rest))
    (occupied : ∀ piece ∈ pieces, write piece ≠ []) (ends : step [] = none) :
    readAll? step (pieces.flatMap write) = some pieces := by
  have h := readMany_flatMap reads occupied ends
  rw [List.append_nil] at h
  rw [readAll?, h]

end

/-! ## Tags -/

def IsName (name : String) : Prop := name ≠ "" ∧ ∀ c ∈ name.toList, isNameChar c

instance (name : String) : Decidable (IsName name) :=
  decidable_of_iff (name ≠ "" ∧ name.toList.all isNameChar) (by simp [IsName])

/-- A name is read up to the first character that cannot be part of it. -/
theorem readName?_append {name : String} (h : IsName name) {c : Char} (hc : isNameChar c = false)
    (rest : List Char) : readName? (name.toList ++ c :: rest) = some (name, c :: rest) := by
  obtain ⟨occupied, hn⟩ := h
  have ht : (name.toList ++ c :: rest).takeWhile isNameChar = name.toList := by
    rw [List.takeWhile_append_of_pos hn, List.takeWhile_cons_of_neg (by simp [hc]), List.append_nil]
  have hd : (name.toList ++ c :: rest).dropWhile isNameChar = c :: rest := by
    rw [List.dropWhile_append_of_pos hn, List.dropWhile_cons_of_neg (by simp [hc])]
  unfold readName?
  rw [ht, hd]
  split
  · next he => exact absurd (String.toList_eq_nil_iff.mp he) occupied
  · rw [String.ofList_toList]

namespace Token

def write : Token → List Char
  | opening tag attributes => Node.openingTag tag attributes
  | closing tag => Node.closingTag tag
  | char c => textChar c

/-- Tokens whose names can be told from what follows, and one attribute from another. -/
def Readable : Token → Prop
  | opening tag attributes =>
    IsName tag ∧ (∀ attr ∈ attributes, IsName attr.name) ∧
      (attributes.map Attribute.name).Nodup
  | closing tag => IsName tag
  | char _ => True

end Token

/-- Tags whose attributes have some of the names given. -/
theorem readable_opening {tag : String} {attributes : List Attribute} (names : List String)
    (sub : (attributes.map Attribute.name).Sublist names)
    (h : IsName tag ∧ (∀ name ∈ names, IsName name) ∧ names.Nodup) :
    (Token.opening tag attributes).Readable := by
  obtain ⟨ht, hn, hd⟩ := h
  refine ⟨ht, ?_, hd.sublist sub⟩
  intro attr hm
  exact hn attr.name (sub.subset (List.mem_map_of_mem hm))

namespace Spelling

variable (spelling : Spelling)

def attributeText (attr : Attribute) : List Char :=
  ' ' :: attr.name.toList ++ '=' :: '"' :: attr.value.toList.flatMap spelling.inValue ++ ['"']

def write : Token → List Char
  | .opening tag attributes =>
    '<' :: tag.toList ++ attributes.flatMap spelling.attributeText ++ ['>']
  | .closing tag => Node.closingTag tag
  | .char c => spelling.inText c

/-- An attribute value in written form is decoded to itself. -/
theorem readAll?_inValue (value : List Char) :
    readAll? readChar? (value.flatMap spelling.inValue) = some value := by
  apply readAll?_flatMap
  · intro c _ rest; exact spelling.reads_inValue c rest
  · intro c _ he
    have h := spelling.reads_inValue c []
    rw [he] at h
    cases h
  · rfl

theorem readAttribute?_attributeText {attr : Attribute} (h : IsName attr.name)
    (rest : List Char) :
    readAttribute? (spelling.attributeText attr ++ rest) = some (attr, rest) := by
  have hq : '"' ∉ attr.value.toList.flatMap spelling.inValue := by
    intro hm
    obtain ⟨c, _, hc⟩ := List.mem_flatMap.mp hm
    exact spelling.quote_not_mem c hc
  have ht : spelling.attributeText attr ++ rest =
      [' '] ++ (attr.name.toList ++ '=' ::
        '"' :: (attr.value.toList.flatMap spelling.inValue ++ '"' :: rest)) := by
    simp [attributeText]
  unfold readAttribute?
  rw [ht, afterLead_append, Option.bind_eq_bind, Option.bind_some,
    readName?_append h (by decide), Option.bind_eq_bind, Option.bind_some]
  simp [afterLead, cutAt_append hq, readAll?_inValue]

/-- Attributes are read up to the end of their tag. -/
theorem readMany_attributeText {attributes : List Attribute}
    (h : ∀ attr ∈ attributes, IsName attr.name) (rest : List Char) :
    readMany readAttribute? (attributes.flatMap spelling.attributeText ++ '>' :: rest) =
      (attributes, '>' :: rest) := by
  apply readMany_flatMap
  · intro attr hm rest; exact spelling.readAttribute?_attributeText (h attr hm) rest
  · intro attr _ he; cases he
  · rfl

/-- What follows the name in an opening tag is not part of the name. -/
theorem attributeText_head (attributes : List Attribute) (rest : List Char) :
    ∃ c more, isNameChar c = false ∧
      attributes.flatMap spelling.attributeText ++ '>' :: rest = c :: more := by
  cases attributes with
  | nil => exact ⟨'>', _, by decide, rfl⟩
  | cons attr attributes => exact ⟨' ', _, by decide, rfl⟩

theorem readOpening?_tag {tag : String} {attributes : List Attribute}
    (h : (Token.opening tag attributes).Readable) (rest : List Char) :
    readOpening? (tag.toList ++ (attributes.flatMap spelling.attributeText ++ '>' :: rest)) =
      some (.opening tag attributes, rest) := by
  obtain ⟨ht, ha, hd⟩ := h
  have hm := spelling.readMany_attributeText ha rest
  obtain ⟨c, more, hc, he⟩ := spelling.attributeText_head attributes rest
  rw [he] at hm ⊢
  unfold readOpening?
  rw [readName?_append ht hc, Option.bind_eq_bind, Option.bind_some]
  simp [hm, afterLead, hd]

theorem write_ne_nil (token : Token) : spelling.write token ≠ [] := by
  intro he
  cases token with
  | opening tag attributes => cases he
  | closing tag => cases he
  | char c =>
    obtain ⟨d, written, hw, _⟩ := spelling.head_inText c
    rw [write, hw] at he
    cases he

end Spelling

theorem readClosing?_closingTag {tag : String} (h : (Token.closing tag).Readable)
    (rest : List Char) :
    readClosing? (tag.toList ++ '>' :: rest) = some (.closing tag, rest) := by
  unfold readClosing?
  rw [readName?_append h (by decide), Option.bind_eq_bind, Option.bind_some]
  simp [afterLead]

/-- A token in written form is read as itself, whatever follows it. -/
theorem Spelling.readToken?_write (spelling : Spelling) {token : Token} (h : token.Readable)
    (rest : List Char) : readToken? (spelling.write token ++ rest) = some (token, rest) := by
  cases token with
  | opening tag attributes =>
    rw [← spelling.readOpening?_tag h rest]
    obtain ⟨⟨occupied, hn⟩, _⟩ := h
    -- The name begins with a character other than the slash of a closing tag.
    cases ht : tag.toList with
    | nil => exact absurd (String.toList_eq_nil_iff.mp ht) occupied
    | cons c name =>
      have hc : c ≠ '/' := by
        intro he
        have := hn c (by simp [ht])
        rw [he] at this
        exact absurd this (by decide)
      simp [write, ht, readToken?, hc]
  | closing tag =>
    rw [← readClosing?_closingTag h rest]
    simp [write, Node.closingTag, readToken?]
  | char c =>
    have hr := spelling.reads_inText c rest
    obtain ⟨d, written, hw, hd⟩ := spelling.head_inText c
    rw [hw, List.cons_append] at hr
    rw [write, hw, List.cons_append]
    simp [readToken?, hd, hr]

/-- Tokens in written form are read as themselves. -/
theorem Spelling.readAll?_write (spelling : Spelling) {tokens : List Token}
    (h : ∀ token ∈ tokens, token.Readable) :
    readAll? readToken? (tokens.flatMap spelling.write) = some tokens := by
  apply readAll?_flatMap
  · intro token hm rest; exact spelling.readToken?_write (h token hm) rest
  · intro token _; exact spelling.write_ne_nil token
  · rfl

theorem Token.write_eq_ofTrees (token : Token) : token.write = Spelling.ofTrees.write token := by
  cases token <;> rfl

end Questionnaire.Html
