import Questionnaire.Proofs.Field.Classify
import Questionnaire.Proofs.Field.HeaderLine
import Questionnaire.Proofs.Text.Phrase

/-! # Fields as they are written

A field is written as a header line with lines below it, and a choice as `value -> label`, bare or in
brackets. What an author may write is a type here, so that reading it back has no further conditions.
-/

namespace Questionnaire
open Text

/-- The text of a block is read as a field with a code, a name and an element. -/
def ReadsAs (block : List Char) (scope : String) (options : FieldOptions) (code name : List Char)
    (required : Bool) (element : Element) : Prop :=
  ∃ header body, FieldHeader.readBlock? (String.ofList block) scope = some (header, body) ∧
    header.code = String.ofList code ∧ header.name = String.ofList name ∧
    header.required = required ∧ classify header body options = .ok element

/-- A header line and the lines below it: the left part says code and name, and the first rule that
answers for the right-hand side gives the element. -/
theorem readsAs_of_firstAnswer {left : LeftPart} {rhs : List Char} {below : List (List Char)}
    {element : Element} {options : FieldOptions} (valid : left.Valid) (free : '\n' ∉ left.text)
    (rhsFree : '\n' ∉ rhs) (rhsReturn : rhs.getLast? ≠ some '\r')
    (answer : ∀ header, Rule.firstAnswer Rule.table
      ⟨header, trim rhs, lines (joinLines below), options⟩ = .ok (some element))
    (scope : String) :
    ReadsAs (joinLines ((left.text ++ '=' :: rhs) :: below)) scope options left.code left.shownName
      left.starred element := by
  let line := left.text ++ '=' :: rhs
  have lineReturn : line.getLast? ≠ some '\r' := by
    cases rhs <;> simp_all [line]
  have split : lines (joinLines (line :: below)) = line :: lines (joinLines below) :=
    lines_joinLines_cons (by simp [line, free, rhsFree]) (by simp [line]) lineReturn below
  have read : FieldHeader.read? (String.ofList line) scope =
      some (FieldHeader.ofParts (String.ofList line) scope left rhs) :=
    FieldHeader.read?_of_parts valid (by simp [line]) (by simpa [isOneLine] using rhsFree) scope
  refine ⟨{ FieldHeader.ofParts (String.ofList line) scope left rhs with
    source := String.ofList (joinLines (line :: below)) },
    (lines (joinLines below)).map String.ofList, ?_, rfl, rfl, rfl, ?_⟩
  · rw [FieldHeader.readBlock?, String.toList_ofList, split]
    dsimp only
    rw [read]
    rfl
  · simp [classify, FieldHeader.ofParts, trim_trim, answer, Except.map, Function.comp_def]

theorem readsAs_of_phrase {left : LeftPart} {gap rhs : List Char} {below : List (List Char)}
    {element : Element} {options : FieldOptions} (valid : left.Valid) (free : '\n' ∉ left.text)
    (isGap : IsGap gap) (phrase : IsPhrase rhs)
    (answer : ∀ header, Rule.firstAnswer Rule.table
      ⟨header, rhs, lines (joinLines below), options⟩ = .ok (some element))
    (scope : String) :
    ReadsAs (joinLines ((left.text ++ '=' :: gap ++ rhs) :: below)) scope options left.code
      left.shownName left.starred element := by
  have trimmed : trim (gap ++ rhs) = rhs := by
    rw [trim_append_left isGap.blank, phrase.trim_eq]
  have last : (gap ++ rhs).getLast? ≠ some '\r' := by
    obtain ⟨c, ending⟩ := Option.ne_none_iff_exists'.mp
      (mt List.getLast?_eq_none_iff.mp phrase.ne_nil)
    have occupied := phrase.getLast_not_blank c ending
    rw [List.getLast?_append, ending, Option.some_or]
    rintro ⟨rfl⟩
    cases occupied
  have read := readsAs_of_firstAnswer valid free
    (by simp [isGap.feed_not_mem, phrase.feed_not_mem]) last
    (fun header => by rw [trimmed]; exact answer header) scope
  rwa [List.append_assoc, List.cons_append]

/-! ## Headers -/

/-- A header as an author writes it: a code, a name unless the code serves as one, and whether the
field is required. -/
structure WrittenHeader where
  code : List Char
  name? : Option (List Char)
  required : Bool
  code_ne_nil : code ≠ []
  code_word : ∀ c ∈ code, isWord c = true
  name_phrase : ∀ name ∈ name?, IsPhrase name ∧ '=' ∉ name

namespace WrittenHeader

variable (header : WrittenHeader)

def text : List Char :=
  header.code ++ (match header.name? with
    | none => []
    | some name => " -> ".toList ++ name) ++ (if header.required then " *=" else " =").toList

def name : List Char := header.name?.getD header.code

def left : LeftPart where
  lead := []
  code := header.code
  gap := [' ']
  name? := header.name?.map fun name => ' ' :: name ++ [' ']
  starred := header.required

theorem left_text : header.left.text ++ ['='] = header.text := by
  unfold text left LeftPart.text LeftPart.body
  cases header.name? <;> cases header.required <;> simp [LeftPart.arrow, LeftPart.starText]

theorem not_mem_left {c : Char} (word : isWord c = false) (sign : c ∉ " ->*".toList)
    (named : ∀ name ∈ header.name?, c ∉ name) : c ∉ header.left.text := by
  have code : c ∉ header.code := not_mem_run header.code_word word
  have signs : c ≠ ' ' ∧ c ≠ '-' ∧ c ≠ '>' ∧ c ≠ '*' := by simpa using sign
  unfold left LeftPart.text LeftPart.body
  cases same : header.name? with
  | none => cases header.required <;> simp [LeftPart.arrow, LeftPart.starText, code, signs]
  | some name =>
    have free : c ∉ name := named name same
    cases header.required <;> simp [LeftPart.arrow, LeftPart.starText, code, signs, free]

theorem feed_not_mem_left : '\n' ∉ header.left.text :=
  header.not_mem_left (by decide) (by decide) fun name hm =>
    (header.name_phrase name hm).1.feed_not_mem

theorem left_valid : header.left.Valid where
  lead_blank := by simp [left]
  code_ne_nil := header.code_ne_nil
  code_word := header.code_word
  gap_blank := by simp [left, isBlank]
  equals_not_mem :=
    header.not_mem_left (by decide) (by decide) fun name hm => (header.name_phrase name hm).2
  star_taken := by
    -- a blank keeps the star from the name
    intro _
    have last : header.left.body.getLast? = some ' ' := by
      unfold left LeftPart.body
      cases header.name? with
      | none => simp [LeftPart.arrow]
      | some name =>
        have arrow : (LeftPart.arrow (some (' ' :: name ++ [' ']))).getLast? = some ' ' :=
          @List.getLast?_concat _ ('-' :: '>' :: ' ' :: name) ' '
        rw [List.getLast?_append, Option.map_some, arrow, Option.some_or]
    rw [last]
    decide

theorem shownName_left : header.left.shownName = header.name := by
  unfold LeftPart.shownName name left
  cases same : header.name? with
  | none => rfl
  | some name =>
    have phrase := (header.name_phrase name same).1
    have inner : trim (' ' :: name ++ [' ']) = name := by
      rw [trim_append_space, trim_space_cons, phrase.trim_eq]
    obtain ⟨c, rest, occupied⟩ := List.exists_cons_of_ne_nil phrase.ne_nil
    simp only [Option.map_some, Option.getD_some, inner]
    rw [occupied]

end WrittenHeader

/-! ## Choices -/

/-- A choice as an author writes it. The first arrow must be the one between value and label. -/
structure WrittenChoice where
  value : List Char
  label : List Char
  value_phrase : IsPhrase value
  label_phrase : IsPhrase label
  no_arrow : ¬ HasArrow value

namespace WrittenChoice

variable (choice : WrittenChoice)

def text : List Char := choice.value ++ " -> ".toList ++ choice.label

theorem text_eq : choice.text = choice.value ++ [' '] ++ '-' :: '>' :: ' ' :: choice.label := by
  simp [text]

def meant (flags : Flags) : Choice where
  value := String.ofList choice.value
  label := String.ofList choice.label
  selected := flags.selected
  correct := flags.correct

/-- The choice that is meant behind a marker: an `x` selects it, an equals sign marks it as a right
answer. -/
def behind (token : List Char) : Choice :=
  choice.meant {
    selected := token.contains 'x' || token.contains 'X'
    correct := token.contains '=' }

/-- The choice that is meant on a line of its own: round brackets select it, square ones mark it as a
right answer. -/
def within (wrapping : Option Bracket) : Choice :=
  choice.meant {
    selected := wrapping = some .round
    correct := wrapping = some .square }

theorem head?_text : choice.text.head? = choice.value.head? := by
  obtain ⟨c, rest, value⟩ := List.exists_cons_of_ne_nil choice.value_phrase.ne_nil
  rw [text, value]
  rfl

theorem text_phrase : IsPhrase choice.text :=
  choice.value_phrase.append (by decide) choice.label_phrase

theorem valueAndLabel_text : valueAndLabel choice.text = (choice.value, choice.label) := by
  have cut := cutAtArrow_append (not_hasArrow_concat choice.no_arrow (by decide : ' ' ≠ '>'))
    (' ' :: choice.label)
  have value : trim (choice.value ++ [' ']) = choice.value := by
    rw [trim_append_space, choice.value_phrase.trim_eq]
  have label : trim (' ' :: choice.label) = choice.label := by
    rw [trim_space_cons, choice.label_phrase.trim_eq]
  rw [valueAndLabel, choice.text_eq, cut]
  dsimp only
  rw [value, label, if_neg (by simp [choice.value_phrase.ne_nil]),
    if_neg (by simp [choice.label_phrase.ne_nil])]

theorem ofText_text : Choice.ofText choice.text = choice.meant ⟨false, false⟩ := by
  rw [Choice.ofText, valueAndLabel_text]
  rfl

theorem ofText_text_behind (token : List Char) :
    (Choice.ofText choice.text).withFlags (Flags.ofToken token) = choice.behind token := by
  rw [ofText_text, Flags.ofToken_eq]
  rfl

end WrittenChoice

/-! ## Brackets around a choice -/

def wrap (wrapping : Option Bracket) (text : List Char) : List Char :=
  match wrapping with
  | none => text
  | some bracket => bracket.around text

theorem isBlank_of_isBracket {c : Char} (h : isBracket c = true) : isBlank c = false := by
  simp only [isBracket, Bool.or_eq_true, decide_eq_true_eq] at h
  rcases h with ((rfl | rfl) | rfl) | rfl <;> decide

theorem feed_not_mem_around {bracket : Bracket} {text : List Char} (free : '\n' ∉ text) :
    '\n' ∉ bracket.around text := by
  cases bracket <;> simp [Bracket.around, Bracket.opening, Bracket.closing, free]

theorem around_phrase (bracket : Bracket) {text : List Char} (free : '\n' ∉ text) :
    IsPhrase (bracket.around text) :=
  .enclosed (isBlank_of_isBracket bracket.isBracket_opening)
    (isBlank_of_isBracket bracket.isBracket_closing) (feed_not_mem_around free)

theorem wrap_phrase (wrapping : Option Bracket) {text : List Char} (h : IsPhrase text) :
    IsPhrase (wrap wrapping text) := by
  cases wrapping with
  | none => exact h
  | some bracket => exact around_phrase bracket h.feed_not_mem

end Questionnaire
