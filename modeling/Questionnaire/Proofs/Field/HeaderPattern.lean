import Questionnaire.Proofs.Field.HeaderLine
import Questionnaire.Proofs.Text.Pattern

/-! # Header lines as a pattern

The grammar of header lines is also a pattern,
`^\s*(?P<code>\w+)\s*(?:->\s*(?P<name>[^=]*?))?\s*(?P<required>\*)?=(?P<rhs>.*)$`. It may match a line
in several ways: a star at the end of a name could belong to the name, and blanks could belong to any
of the runs around them. The reader, which never goes back, gives what the first match says.
-/

namespace Questionnaire
open Text Pattern LeftPart

def headerRhs : Pattern :=
  .seq (.one (· = '=')) <| .seq (.capture "rhs" (.many (· ≠ '\n'))) .ended

def headerEnd : Pattern :=
  .seq (.many isBlank) <| .seq (.optional (.capture "required" (.one (· = '*')))) headerRhs

/-- An arrow with a name, as short as possible. -/
def headerName : Pattern :=
  .seq (.one (· = '-')) <| .seq (.one (· = '>')) <|
  .seq (.many isBlank) (.capture "name" (.few (· ≠ '=')))

def headerPattern : Pattern :=
  .seq (.many isBlank) <|
  .seq (.capture "code" (.seq (.one isWord) (.many isWord))) <|
  .seq (.many isBlank) <|
  .seq (.optional headerName) headerEnd

def FieldHeader.ofCaptures? (line scope : String) (captures : List (String × List Char)) :
    Option FieldHeader := do
  let code ← captures.lookup "code"
  let name := ((captures.lookup "name").map trim).filter fun name => !name.isEmpty
  return {
    id := scope ++ "_" ++ String.ofList code
    code := String.ofList code
    name := String.ofList (name.getD code)
    required := (captures.lookup "required").isSome
    rhs := String.ofList (trim ((captures.lookup "rhs").getD []))
    source := line }

/-! ## Whatever matches is a header line -/

theorem equals_not_mem_starText (starred : Bool) : '=' ∉ starText starred := by
  cases starred <;> decide

theorem head?_starText {p : Char → Bool} (star : p '*' = false) (equals : p '=' = false)
    (starred : Bool) (rhs : List Char) :
    ∀ c ∈ (starText starred ++ '=' :: rhs).head?, p c = false := by
  intro c hc
  cases starred with
  | true => cases hc; exact star
  | false => cases hc; exact equals

theorem isOneLine_iff {text : List Char} : isOneLine text = true ↔ ∀ c ∈ text, c ≠ '\n' := by
  simp [isOneLine, List.forall_mem_ne']

theorem mem_headerEnd {text : List Char} {m : Match} (h : m ∈ headerEnd.results text) :
    ∃ blanks starred rhs, text = blanks ++ starText starred ++ '=' :: rhs ∧
      (∀ c ∈ blanks, isBlank c = true) ∧ isOneLine rhs = true := by
  obtain ⟨blanks, hb, m, h, -⟩ := mem_seq.mp h
  obtain ⟨star, hs, m, h, -⟩ := mem_seq.mp h
  obtain ⟨equals, he, m, h, -⟩ := mem_seq.mp h
  obtain ⟨rhs, hr, m, h, -⟩ := mem_seq.mp h
  obtain ⟨rfl, blank, -⟩ := mem_many hb
  obtain ⟨sign, isSign, behindStar, -⟩ := mem_one he
  obtain ⟨line, hl, rfl⟩ := mem_capture.mp hr
  obtain ⟨behindSign, oneLine, -⟩ := mem_many hl
  obtain ⟨stop, -⟩ := mem_ended.mp h
  have tail : star.rest = '=' :: line.taken := by
    rw [behindStar, behindSign, of_decide_eq_true isSign]
    simpa using stop
  have closed : isOneLine line.taken = true :=
    isOneLine_iff.mpr fun c hc => of_decide_eq_true (oneLine c hc)
  rcases mem_optional.mp hs with hs | rfl
  · obtain ⟨mark, hm, rfl⟩ := mem_capture.mp hs
    obtain ⟨c, isStar, more, -⟩ := mem_one hm
    have behindMark : mark.rest = '=' :: line.taken := tail
    refine ⟨blanks.taken, true, line.taken, ?_, blank, closed⟩
    rw [more, of_decide_eq_true isStar, behindMark]
    simp [starText]
  · have behindBlanks : blanks.rest = '=' :: line.taken := tail
    refine ⟨blanks.taken, false, line.taken, ?_, blank, closed⟩
    rw [behindBlanks]
    simp [starText]

theorem mem_headerName {text : List Char} {m : Match} (h : m ∈ headerName.results text) :
    ∃ name, text = '-' :: '>' :: name ++ m.rest ∧ '=' ∉ name := by
  obtain ⟨dash, hd, _, hm, rfl⟩ := mem_seq.mp h
  obtain ⟨angle, ha, _, hl, rfl⟩ := mem_seq.mp hm
  obtain ⟨blanks, hb, _, hc, rfl⟩ := mem_seq.mp hl
  obtain ⟨c, isDash, rfl, -⟩ := mem_one hd
  obtain ⟨d, isAngle, behindDash, -⟩ := mem_one ha
  obtain ⟨behindAngle, blank, -⟩ := mem_many hb
  obtain ⟨name, hn, rfl⟩ := mem_capture.mp hc
  obtain ⟨behindBlanks, noEquals, -⟩ := mem_runs hn
  refine ⟨blanks.taken ++ name.taken, ?_, ?_⟩
  · rw [of_decide_eq_true isDash, behindDash, of_decide_eq_true isAngle, behindAngle, behindBlanks]
    simp [Match.andThen]
  · intro hm
    rcases List.mem_append.mp hm with hm | hm
    · exact absurd (blank _ hm) (by decide)
    · exact absurd (noEquals _ hm) (by decide)

section

variable {lead code gap : List Char} (leadBlank : ∀ c ∈ lead, isBlank c = true)
  (codeWord : ∀ c ∈ code, isWord c = true) (gapBlank : ∀ c ∈ gap, isBlank c = true)

include leadBlank codeWord gapBlank

theorem not_mem_before_name {c : Char} (blank : isBlank c = false) (word : isWord c = false) :
    c ∉ lead ++ code ++ gap := by
  rw [List.mem_append, List.mem_append, not_or, not_or]
  exact ⟨⟨not_mem_run leadBlank blank, not_mem_run codeWord word⟩, not_mem_run gapBlank blank⟩

/-- A left part may end in any text behind an arrow. If this ends in a star, the star is that of the
left part. -/
theorem LeftPart.exists_of_arrow (codeNe : code ≠ []) {name : List Char} (noEquals : '=' ∉ name) :
    ∃ left : LeftPart, left.Valid ∧ left.text = lead ++ code ++ gap ++ '-' :: '>' :: name := by
  have equals : '=' ∉ lead ++ code ++ gap :=
    not_mem_before_name leadBlank codeWord gapBlank (by decide) (by decide)
  by_cases last : name.getLast? = some '*'
  · obtain ⟨front, rfl⟩ := List.getLast?_eq_some_iff.mp last
    refine ⟨⟨lead, code, gap, some front, true⟩, ⟨leadBlank, codeNe, codeWord, gapBlank, ?_, ?_⟩, ?_⟩
    · simp_all [text, body, arrow, equals_not_mem_starText]
    · intro off
      cases off
    · simp [text, body, arrow, starText]
  · refine ⟨⟨lead, code, gap, some name, false⟩, ⟨leadBlank, codeNe, codeWord, gapBlank, ?_, ?_⟩, ?_⟩
    · simp_all [text, body, arrow, equals_not_mem_starText]
    · intro _
      cases name with
      | nil => simp [body, arrow]
      | cons c rest => simpa [body, arrow, List.getLast?_append] using last
    · simp [text, body, arrow, starText]

/-- Without an arrow no star but that of the left part can end it. -/
theorem LeftPart.exists_of_no_arrow (codeNe : code ≠ []) (starred : Bool) :
    ∃ left : LeftPart, left.Valid ∧ left.text = lead ++ code ++ gap ++ starText starred := by
  have equals : '=' ∉ lead ++ code ++ gap :=
    not_mem_before_name leadBlank codeWord gapBlank (by decide) (by decide)
  have star : '*' ∉ lead ++ code ++ gap :=
    not_mem_before_name leadBlank codeWord gapBlank (by decide) (by decide)
  refine ⟨⟨lead, code, gap, none, starred⟩, ⟨leadBlank, codeNe, codeWord, gapBlank, ?_, ?_⟩, ?_⟩
  · cases starred <;> simp_all [text, body, arrow, equals_not_mem_starText]
  · intro _ last
    apply star
    have := List.mem_of_getLast? last
    simpa [body, arrow] using this
  · simp [text, body, arrow, starText]

end

theorem exists_parts_of_mem {text : List Char} {m : Match} (h : m ∈ headerPattern.results text) :
    ∃ (left : LeftPart) (rhs : List Char), left.Valid ∧ text = left.text ++ '=' :: rhs ∧
      isOneLine rhs = true := by
  obtain ⟨lead, hl, _, hm, -⟩ := mem_seq.mp h
  obtain ⟨code, hc, _, hn, -⟩ := mem_seq.mp hm
  obtain ⟨gap, hg, _, ho, -⟩ := mem_seq.mp hn
  obtain ⟨name, hname, _, he, -⟩ := mem_seq.mp ho
  obtain ⟨rfl, leadBlank, -⟩ := mem_many hl
  obtain ⟨whole, hw, rfl⟩ := mem_capture.mp hc
  obtain ⟨first, hf, more, hr, rfl⟩ := mem_seq.mp hw
  obtain ⟨c, firstWord, behindLead, taken, -⟩ := mem_one hf
  obtain ⟨behindFirst, moreWord, -⟩ := mem_many hr
  obtain ⟨behindCode, gapBlank, -⟩ := mem_many hg
  obtain ⟨blanks, starred, rhs, behindName, blank, oneLine⟩ := mem_headerEnd he
  have word : ∀ d ∈ c :: more.taken, isWord d = true := List.forall_mem_cons.mpr ⟨firstWord, moreWord⟩
  have start : lead.rest = c :: more.taken ++ gap.taken ++ gap.rest := by
    have behindMore : more.rest = gap.taken ++ gap.rest := behindCode
    rw [behindLead, behindFirst, behindMore]
    simp
  rcases mem_optional.mp hname with hname | rfl
  · obtain ⟨text, behindGap, noEquals⟩ := mem_headerName hname
    have clean : '=' ∉ text ++ blanks ++ starText starred := by
      rw [List.mem_append, List.mem_append, not_or, not_or]
      exact ⟨⟨noEquals, not_mem_run blank (by decide)⟩, equals_not_mem_starText starred⟩
    obtain ⟨left, valid, same⟩ :=
      LeftPart.exists_of_arrow leadBlank word gapBlank (List.cons_ne_nil _ _) clean
    refine ⟨left, rhs, valid, ?_, oneLine⟩
    rw [same, start, behindGap, behindName]
    simp
  · have gapBlanks : ∀ c ∈ gap.taken ++ blanks, isBlank c = true :=
      List.forall_mem_append.mpr ⟨gapBlank, blank⟩
    obtain ⟨left, valid, same⟩ :=
      LeftPart.exists_of_no_arrow leadBlank word gapBlanks (List.cons_ne_nil _ _) starred
    have behindGap : gap.rest = blanks ++ starText starred ++ '=' :: rhs := behindName
    refine ⟨left, rhs, valid, ?_, oneLine⟩
    rw [same, start, behindGap]
    simp

/-! ## The first match of a header line -/

section

variable {β : Type} {k : Match → Option β} {b : β}

def endCaptures (starred : Bool) (rhs : List Char) : List (String × List Char) :=
  (if starred then [("required", ['*'])] else []) ++ [("rhs", rhs)]

theorem firstOf_headerRhs {rhs : List Char} (oneLine : isOneLine rhs = true)
    (h : k ⟨'=' :: rhs, [("rhs", rhs)], []⟩ = some b) :
    headerRhs.firstOf ('=' :: rhs) k = some b := by
  rw [headerRhs, firstOf_seq, firstOf_one (by rfl), firstOf_seq, firstOf_capture]
  apply firstOf_many (List.append_nil rhs).symm
  · intro c hc
    exact decide_eq_true (isOneLine_iff.mp oneLine c hc)
  · intro c hc
    cases hc
  · rw [firstOf_ended, ← h]
    simp [Match.andThen, Match.none]

theorem firstOf_headerEnd {blanks rhs : List Char} (starred : Bool)
    (blank : ∀ c ∈ blanks, isBlank c = true) (oneLine : isOneLine rhs = true)
    (h : k ⟨blanks ++ starText starred ++ '=' :: rhs, endCaptures starred rhs, []⟩ = some b) :
    headerEnd.firstOf (blanks ++ starText starred ++ '=' :: rhs) k = some b := by
  rw [headerEnd, firstOf_seq]
  apply firstOf_many (List.append_assoc ..) blank
    (head?_starText (by decide) (by decide) starred rhs)
  · rw [firstOf_seq]
    cases starred with
    | true =>
      apply firstOf_optional_of_some
      rw [firstOf_capture]
      change (Pattern.one _).firstOf ('*' :: '=' :: rhs) _ = _
      rw [firstOf_one (by rfl)]
      apply firstOf_headerRhs oneLine
      rw [← h]
      simp [Match.andThen, endCaptures, starText]
    | false =>
      rw [firstOf_optional_of_none]
      · apply firstOf_headerRhs oneLine
        rw [← h]
        simp [Match.andThen, Match.none, endCaptures, starText]
      · rw [firstOf_capture]
        exact firstOf_one_of_stop (by intro c hc; cases hc; rfl)

/-- The end of a header line is not found while a part of the name is left. -/
theorem headerEnd_refuses {left after rhs : List Char} {starred : Bool} (occupied : left ≠ [])
    (last : ∀ c ∈ left.getLast?, isBlank c = false) (noEquals : '=' ∉ left ++ after)
    (star : starred = false → (left ++ after).getLast? ≠ some '*') :
    headerEnd.firstOf (left ++ after ++ starText starred ++ '=' :: rhs) k = none := by
  apply firstOf_eq_none
  intro m hm
  obtain ⟨blanks, starred', rhs', whole, blank, -⟩ := mem_headerEnd hm
  have same : left ++ after ++ starText starred = blanks ++ starText starred' := by
    have clean : '=' ∉ left ++ after ++ starText starred := by
      simpa [equals_not_mem_starText] using noEquals
    have clean' : '=' ∉ blanks ++ starText starred' := by
      simp [equals_not_mem_starText, not_mem_run blank (show isBlank '=' = false by decide)]
    have cut := congrArg (cutAt '=') whole
    rw [cutAt_append clean, cutAt_append clean'] at cut
    exact (Prod.mk.inj (Option.some.inj cut)).1
  -- the last character of the name that is left is no blank, so it can only be the star
  have inside : left.getLast occupied ∈ left := List.getLast_mem occupied
  have outside : left.getLast occupied ∉ blanks := by
    intro hm
    have stands := last _ (List.getLast?_eq_some_getLast occupied)
    rw [blank _ hm] at stands
    cases stands
  cases starred' with
  | false =>
    have : left.getLast occupied ∈ blanks ++ starText false := by rw [← same]; simp [inside]
    exact absurd (by simpa [starText] using this) outside
  | true =>
    cases starred with
    | true =>
      have shorter : left ++ after = blanks := List.append_cancel_right same
      exact absurd (by rw [← shorter]; simp [inside]) outside
    | false =>
      apply absurd _ (star rfl)
      have whole : left ++ after = blanks ++ ['*'] := by simpa [starText] using same
      rw [whole, List.getLast?_concat]

theorem firstOf_named {name rhs : List Char} {starred : Bool} (noEquals : '=' ∉ name)
    (oneLine : isOneLine rhs = true) (star : starred = false → name.getLast? ≠ some '*')
    (h : k ⟨'-' :: '>' :: name ++ starText starred ++ '=' :: rhs,
      ("name", trim name) :: endCaptures starred rhs, []⟩ = some b) :
    (Pattern.seq (.optional headerName) headerEnd).firstOf
      ('-' :: '>' :: name ++ starText starred ++ '=' :: rhs) k = some b := by
  obtain ⟨before, after, whole, blank, blank', stop, last⟩ := exists_trim name
  have clean : '=' ∉ trim name ++ after := by
    intro hm
    apply noEquals
    rw [whole, List.append_assoc]
    exact List.mem_append_right _ hm
  rw [firstOf_seq]
  apply firstOf_optional_of_some
  rw [headerName, firstOf_seq]
  change (Pattern.one _).firstOf ('-' :: '>' :: (name ++ starText starred ++ '=' :: rhs)) _ = _
  rw [firstOf_one (by rfl), firstOf_seq, firstOf_one (by rfl), firstOf_seq]
  have split : name ++ starText starred ++ '=' :: rhs =
      before ++ (trim name ++ (after ++ starText starred ++ '=' :: rhs)) := by
    conv_lhs => rw [whole]
    simp
  apply firstOf_many split blank
  · have := stop_append stop (head?_starText (by decide) (by decide) starred rhs)
    simpa using this
  · rw [firstOf_capture]
    apply firstOf_few rfl
    · intro c hc
      apply decide_eq_true
      rintro rfl
      exact clean (List.mem_append_left _ hc)
    · intro taken left ne parts
      rw [parts, List.getLast?_append_of_ne_nil _ ne] at last
      rw [parts, List.append_assoc] at clean
      have ending : starred = false → (left ++ after).getLast? ≠ some '*' := by
        intro off
        have := star off
        rwa [whole, parts, List.append_assoc, List.append_assoc, ← List.append_assoc before,
          List.getLast?_append_of_ne_nil _ (by simp [ne])] at this
      have text : left ++ (after ++ starText starred ++ '=' :: rhs) =
          left ++ after ++ starText starred ++ '=' :: rhs := by simp
      change headerEnd.firstOf (left ++ (after ++ starText starred ++ '=' :: rhs)) _ = none
      rw [text]
      exact headerEnd_refuses ne last (fun hm => clean (List.mem_append_right _ hm)) ending
    · apply firstOf_headerEnd starred blank' oneLine
      rw [← h, List.cons_append, List.cons_append, List.cons_append, List.cons_append, split]
      simp [Match.andThen]

theorem firstOf_unnamed {rhs : List Char} (starred : Bool) (oneLine : isOneLine rhs = true)
    (h : k ⟨starText starred ++ '=' :: rhs, endCaptures starred rhs, []⟩ = some b) :
    (Pattern.seq (.optional headerName) headerEnd).firstOf (starText starred ++ '=' :: rhs) k =
      some b := by
  rw [firstOf_seq, firstOf_optional_of_none]
  · exact @firstOf_headerEnd _ _ _ [] rhs starred (by simp) oneLine h
  · rw [headerName, firstOf_seq]
    apply firstOf_one_of_stop
    intro c hc
    cases starred <;> · cases hc; rfl

def LeftPart.captures (left : LeftPart) (rhs : List Char) : List (String × List Char) :=
  ("code", left.code) :: (left.name?.map fun name => ("name", trim name)).toList ++
    endCaptures left.starred rhs

theorem LeftPart.text_eq (left : LeftPart) :
    left.text =
      left.lead ++ (left.code ++ (left.gap ++ (arrow left.name? ++ starText left.starred))) := by
  simp [text, body]

theorem LeftPart.Valid.name_star {left : LeftPart} (valid : left.Valid) {name : List Char}
    (named : left.name? = some name) : left.starred = false → name.getLast? ≠ some '*' := by
  intro off last
  apply valid.star_taken off
  obtain ⟨front, rfl⟩ := List.getLast?_eq_some_iff.mp last
  have whole : left.body = (left.lead ++ left.code ++ left.gap ++ '-' :: '>' :: front) ++ ['*'] := by
    simp [body, named, arrow]
  rw [whole, List.getLast?_concat]

theorem firstOf_headerPattern {left : LeftPart} (valid : left.Valid) {rhs : List Char}
    (oneLine : isOneLine rhs = true)
    (h : k ⟨left.text ++ '=' :: rhs, left.captures rhs, []⟩ = some b) :
    headerPattern.firstOf (left.text ++ '=' :: rhs) k = some b := by
  obtain ⟨c, more, code⟩ := List.exists_cons_of_ne_nil valid.code_ne_nil
  have word := valid.code_word
  rw [code, List.forall_mem_cons] at word
  have whole : left.text ++ '=' :: rhs = left.lead ++ (c :: (more ++ (left.gap ++
      (arrow left.name? ++ (starText left.starred ++ '=' :: rhs))))) := by
    rw [left.text_eq, code]
    simp
  rw [headerPattern, firstOf_seq]
  apply firstOf_many whole valid.lead_blank
  · intro d hd
    cases hd
    exact isBlank_of_isWord word.1
  · rw [firstOf_seq, firstOf_capture, firstOf_seq, firstOf_one word.1]
    apply firstOf_many rfl word.2
    · have := stop_append (head?_behind_code valid)
        (head?_starText (by decide) (by decide) left.starred rhs)
      simpa using this
    · rw [firstOf_seq]
      apply firstOf_many rfl valid.gap_blank
      · exact stop_append (head?_arrow (by decide) left.name?)
          (head?_starText (by decide) (by decide) left.starred rhs)
      · cases named : left.name? with
        | none =>
          apply firstOf_unnamed left.starred oneLine
          rw [← h, whole]
          simp [Match.andThen, LeftPart.captures, named, arrow, code]
        | some name =>
          have noEquals : '=' ∉ name := by
            intro hm
            apply valid.equals_not_mem
            rw [left.text_eq, named]
            simp [arrow, hm]
          have text : arrow (some name) ++ (starText left.starred ++ '=' :: rhs) =
              '-' :: '>' :: name ++ starText left.starred ++ '=' :: rhs := by
            simp [arrow]
          rw [text]
          apply firstOf_named noEquals oneLine (valid.name_star named)
          rw [← h, whole]
          simp [Match.andThen, LeftPart.captures, named, arrow, code]

end

/-! ## The reader and the pattern -/

namespace FieldHeader

theorem ofCaptures?_captures (line scope : String) (left : LeftPart) (rhs : List Char) :
    ofCaptures? line scope (left.captures rhs) = some (ofParts line scope left rhs) := by
  have name : (((left.captures rhs).lookup "name").map trim) = left.name?.map trim := by
    obtain ⟨lead, code, gap, name?, starred⟩ := left
    cases name? with
    | none => cases starred <;> rfl
    | some name => exact congrArg some (trim_trim name)
  have required : ((left.captures rhs).lookup "required").isSome = left.starred := by
    obtain ⟨lead, code, gap, name?, starred⟩ := left
    cases name? <;> cases starred <;> rfl
  have right : (left.captures rhs).lookup "rhs" = some rhs := by
    obtain ⟨lead, code, gap, name?, starred⟩ := left
    cases name? <;> cases starred <;> rfl
  have shown : ((left.name?.map trim).filter fun name => !name.isEmpty).getD left.code =
      left.shownName := by
    unfold LeftPart.shownName
    cases left.name? with
    | none => rfl
    | some name => cases h : trim name <;> simp [h, Option.filter]
  change some (_ : FieldHeader) = _
  rw [name, required, right, shown]
  rfl

/-- **The reader gives what the first match says.** It reads a line just where the pattern matches
the line, and of all the matches it takes the one that a backtracking matcher finds first. -/
theorem read?_eq_first_match (line scope : String) :
    read? line scope = (headerPattern.results line.toList).head?.bind fun m =>
      ofCaptures? line scope m.captures := by
  cases read : read? line scope with
  | some header =>
    obtain ⟨left, rhs, valid, oneLine, whole, rfl⟩ := exists_parts_of_read? read
    rw [head?_results, whole, firstOf_headerPattern valid oneLine rfl, Option.bind_some,
      ofCaptures?_captures]
  | none =>
    cases first : (headerPattern.results line.toList).head? with
    | none => rfl
    | some m =>
      obtain ⟨left, rhs, valid, whole, oneLine⟩ :=
        exists_parts_of_mem (List.mem_of_mem_head? first)
      rw [read?_of_parts valid whole oneLine scope] at read
      cases read

end FieldHeader
end Questionnaire
