import Questionnaire.Field.Choices
import Questionnaire.Proofs.Field.Marker
import Questionnaire.Proofs.Text.Scan

/-! # Markers tile a right-hand side

A marker is also a pattern: a bracket, `[xX= ]{0,3}` or else `[^()\[\]]`, and the bracket that closes.
Whatever alternative takes its token, no token holds a bracket, so all matches at one place are the same,
and a match never reaches into the next marker. Looked for from left to right, the pattern therefore
cuts a text in the only way in which it is made of markers and texts without any, and the places of two
markers that follow each other are those of a slice.
-/

namespace Questionnaire
open Text

/-! ## The pattern of a marker -/

def tokenPattern : Pattern := .either (.atMost 3 isFlagChar) (.one fun c => !isBracket c)

/-- A marker, with its token as the group `mod`. -/
def markerPattern (bracket : Bracket) : Pattern :=
  .seq (.one (· = bracket.opening)) <|
  .seq (.capture "mod" tokenPattern) (.one (· = bracket.closing))

def markerMatch (bracket : Bracket) (token rest : List Char) : Match :=
  ⟨bracket.around token, [("mod", token)], rest⟩

section

variable {bracket : Bracket} {text token rest : List Char}

theorem mem_tokenPattern {m : Match} (h : m ∈ tokenPattern.results text) :
    IsToken m.taken ∧ text = m.taken ++ m.rest ∧ m.captures = [] := by
  rcases Pattern.mem_either.mp h with flags | lone
  · obtain ⟨run, short⟩ := Pattern.mem_atMost flags
    obtain ⟨whole, flag, captures⟩ := Pattern.mem_many run
    exact ⟨.flags short flag, whole, captures⟩
  · obtain ⟨c, plain, whole, taken, captures⟩ := Pattern.mem_one lone
    rw [taken]
    exact ⟨.single (by simpa using plain), whole, captures⟩

theorem tokenPattern_takes (h : IsToken token) (rest : List Char) :
    ⟨token, [], rest⟩ ∈ tokenPattern.results (token ++ rest) := by
  refine Pattern.mem_either.mpr ?_
  cases h with
  | flags short flag => exact .inl (Pattern.mem_atMost_append flag short rest)
  | single plain => exact .inr (Pattern.mem_one_cons (by simpa using plain) rest)

theorem mem_markerPattern {m : Match} :
    m ∈ (markerPattern bracket).results text ↔
      ∃ token rest, IsToken token ∧ text = bracket.around token ++ rest ∧
        m = markerMatch bracket token rest := by
  constructor
  · intro h
    obtain ⟨opened, ho, _, further, rfl⟩ := Pattern.mem_seq.mp h
    obtain ⟨_, named, closed, hc, rfl⟩ := Pattern.mem_seq.mp further
    obtain ⟨inner, ht, rfl⟩ := Pattern.mem_capture.mp named
    obtain ⟨c, opens, atOpening, openingTaken, openingCaptures⟩ := Pattern.mem_one ho
    obtain ⟨isToken, atToken, tokenCaptures⟩ := mem_tokenPattern ht
    obtain ⟨d, closes, atClosing, closingTaken, closingCaptures⟩ := Pattern.mem_one hc
    refine ⟨inner.taken, closed.rest, isToken, ?_, ?_⟩
    · rw [atOpening, atToken, atClosing, of_decide_eq_true opens, of_decide_eq_true closes]
      simp [Bracket.around]
    · simp [Match.andThen, markerMatch, Bracket.around, openingTaken, openingCaptures, tokenCaptures,
        closingTaken, closingCaptures, of_decide_eq_true opens, of_decide_eq_true closes]
  · rintro ⟨token, rest, isToken, rfl, rfl⟩
    have closed : ⟨[bracket.closing], [], rest⟩ ∈
        (Pattern.one (· = bracket.closing)).results (bracket.closing :: rest) :=
      Pattern.mem_one_cons (decide_eq_true rfl) rest
    have inner : ⟨token, [("mod", token)], bracket.closing :: rest⟩ ∈
        (Pattern.capture "mod" tokenPattern).results (token ++ bracket.closing :: rest) :=
      Pattern.mem_capture.mpr ⟨_, tokenPattern_takes isToken _, rfl⟩
    have opened : ⟨[bracket.opening], [], token ++ bracket.closing :: rest⟩ ∈
        (Pattern.one (· = bracket.opening)).results
          (bracket.opening :: (token ++ bracket.closing :: rest)) :=
      Pattern.mem_one_cons (decide_eq_true rfl) _
    have found := Pattern.andThen_mem_seq opened (Pattern.andThen_mem_seq inner closed)
    simpa [markerPattern, markerMatch, Match.andThen, Bracket.around] using found

/-- At one place all matches are the same, whatever is preferred. -/
theorem head?_markerPattern (isToken : IsToken token) (rest : List Char) :
    ((markerPattern bracket).results (bracket.around token ++ rest)).head? =
      some (markerMatch bracket token rest) := by
  rw [Pattern.head?_results]
  refine Pattern.firstOf_eq_some (mem_markerPattern.mpr ⟨token, rest, isToken, rfl, rfl⟩) ?_
  intro m hm
  obtain ⟨other, behind, isOther, whole, rfl⟩ := mem_markerPattern.mp hm
  obtain ⟨-, rfl, rfl⟩ := Bracket.around_append_inj isToken isOther whole
  rfl

theorem head?_markerPattern_none (h : bracket.leadingToken? text = none) :
    ((markerPattern bracket).results text).head? = none := by
  rw [List.head?_eq_none_iff, List.eq_nil_iff_forall_not_mem]
  intro m hm
  obtain ⟨token, rest, isToken, rfl, -⟩ := mem_markerPattern.mp hm
  rw [Bracket.leadingToken?_around isToken] at h
  cases h

end

/-! ## The only tiling -/

namespace Bracket

/-- A text is a text without markers, and then markers with texts behind them that have none. -/
structure Tiles (bracket : Bracket) (text before : List Char) (pieces : List MarkedText) : Prop where
  whole : text = before ++ bracket.written pieces
  unmarked : ¬bracket.Marks before
  plain : ∀ piece ∈ pieces, IsToken piece.token ∧ ¬bracket.Marks piece.text

variable {bracket : Bracket} {text before : List Char} {pieces : List MarkedText}

theorem Tiles.cutMarkers_eq (h : bracket.Tiles text before pieces) :
    bracket.cutMarkers 0 text = (before, pieces) := by
  rw [h.whole, cutMarkers_written h.unmarked h.plain]

theorem tiles_cutMarkers (bracket : Bracket) (text : List Char) :
    bracket.Tiles text (bracket.cutMarkers 0 text).1 (bracket.markedTexts text) := by
  obtain ⟨before, pieces, whole, unmarked, plain⟩ := exists_written bracket text
  have tiles : bracket.Tiles text before pieces := ⟨whole, unmarked, plain⟩
  rw [markedTexts, tiles.cutMarkers_eq]
  exact tiles

/-! ## Markers found by scanning -/

def foundFrom (bracket : Bracket) : (place : Nat) → List MarkedText → List Found
  | _, [] => []
  | place, piece :: more =>
    ⟨place, markerMatch bracket piece.token (piece.text ++ bracket.written more)⟩ ::
      bracket.foundFrom (place + byteLength (bracket.around piece.token ++ piece.text)) more

/-- Text without a marker is passed over up to the next marker. -/
theorem scan_before (unmarked : ¬bracket.Marks before) (place : Nat) {rest : List Char}
    (stop : rest = [] ∨ bracket.Leads rest) :
    (markerPattern bracket).scan place 0 (before ++ rest) =
      (markerPattern bracket).scan (place + byteLength before) 0 rest := by
  induction before generalizing place with
  | nil => rfl
  | cons c before ih =>
    have lead : bracket.leadingToken? (c :: before ++ rest) = none := by
      rcases stop with rfl | ⟨token, isToken, back, rfl⟩
      · rw [List.append_nil, leadingToken?_eq_none unmarked]
      · exact leadingToken?_before_marker unmarked isToken back
    rw [List.cons_append] at lead ⊢
    rw [Pattern.scan_pass (head?_markerPattern_none lead), ih (not_marks_of_cons unmarked),
      byteLength_cons, Nat.add_assoc]

/-- Scanning finds the markers of a tiling, each at its place. -/
theorem scan_written (plain : ∀ piece ∈ pieces, IsToken piece.token ∧ ¬bracket.Marks piece.text)
    (place : Nat) :
    (markerPattern bracket).scan place 0 (bracket.written pieces) =
      bracket.foundFrom place pieces := by
  induction pieces generalizing place with
  | nil => rfl
  | cons piece more ih =>
    obtain ⟨⟨isToken, unmarked⟩, others⟩ := List.forall_mem_cons.mp plain
    have first := @head?_markerPattern bracket _ isToken (piece.text ++ bracket.written more)
    rw [written_cons, List.append_assoc]
    refine (Pattern.scan_match (m := markerMatch bracket piece.token _) ?_ first place).trans ?_
    · simp [markerMatch, around]
    · rw [scan_before unmarked _ (written_empty_or_leads others), ih others, foundFrom,
        byteLength_append, Nat.add_assoc]
      rfl

theorem Tiles.scan_eq (h : bracket.Tiles text before pieces) :
    (markerPattern bracket).scan 0 0 text = bracket.foundFrom (byteLength before) pieces := by
  rw [h.whole, scan_before h.unmarked 0 (written_empty_or_leads h.plain), Nat.zero_add,
    scan_written h.plain]

end Bracket

/-! ## Slices between markers -/

/-- The texts behind matches, as the places between which they stand: from the end of a match to the
next one, or to the end. -/
def spansBehind (ending : Nat) : List Found → List (Nat × Nat)
  | [] => []
  | found :: more => (found.stop, (more.head?.map Found.start).getD ending) :: spansBehind ending more

def Bracket.textSpans (bracket : Bracket) (text : List Char) : List (Nat × Nat) :=
  spansBehind (byteLength text) ((markerPattern bracket).scan 0 0 text)

/-- The choices of a set, with the texts cut out by their places. There is no answer if one of them is
no slice. -/
def slicedChoices (rhs : List Char) (bracket : Bracket) : Option (List Choice) :=
  ((bracket.textSpans rhs).mapM fun span => slice? span.1 span.2 rhs).map fun texts =>
    (((markerPattern bracket).scan 0 0 rhs).zip texts).filterMap fun entry =>
      (entry.1.found.captures.lookup "mod").bind fun token =>
        MarkedText.choice? ⟨token, entry.2⟩

theorem mapM_eq_some_of_map {α β : Type} {f : α → Option β} {all : List α} {results : List β}
    (h : all.map f = results.map some) : all.mapM f = some results := by
  induction all generalizing results with
  | nil =>
    rw [List.map_eq_nil_iff.mp h.symm]
    rfl
  | cons a all ih =>
    cases results with
    | nil => cases h
    | cons b results =>
      obtain ⟨here, others⟩ := List.cons.inj h
      rw [List.mapM_cons, here, ih others]
      rfl

namespace Bracket

variable {bracket : Bracket} {text before : List Char} {pieces : List MarkedText}

/-- The text behind the first marker ends where the next marker starts, or with the text. -/
theorem spansBehind_cons (bracket : Bracket) (place : Nat) (piece : MarkedText)
    (more : List MarkedText) :
    spansBehind (place + byteLength (bracket.written (piece :: more)))
        (bracket.foundFrom place (piece :: more)) =
      (place + byteLength (bracket.around piece.token),
          place + byteLength (bracket.around piece.token ++ piece.text)) ::
        spansBehind (place + byteLength (bracket.around piece.token ++ piece.text) +
            byteLength (bracket.written more))
          (bracket.foundFrom (place + byteLength (bracket.around piece.token ++ piece.text)) more) := by
  rw [written_cons, byteLength_append, ← Nat.add_assoc]
  cases more with
  | nil => rfl
  | cons next more => rfl

/-- The slices behind the markers are the texts of the tiling. -/
theorem slices_foundFrom (front : List Char) (pieces : List MarkedText) :
    (spansBehind (byteLength (front ++ bracket.written pieces))
        (bracket.foundFrom (byteLength front) pieces)).map
        (fun span => slice? span.1 span.2 (front ++ bracket.written pieces)) =
      (pieces.map MarkedText.text).map some := by
  induction pieces generalizing front with
  | nil => rfl
  | cons piece more ih =>
    have next := ih (front ++ (bracket.around piece.token ++ piece.text))
    have whole : front ++ (bracket.around piece.token ++ piece.text) ++ bracket.written more =
        front ++ bracket.written (piece :: more) := by
      rw [written_cons, List.append_assoc]
    have here : slice? (byteLength front + byteLength (bracket.around piece.token))
        (byteLength front + byteLength (bracket.around piece.token ++ piece.text))
        (front ++ bracket.written (piece :: more)) = some piece.text := by
      refine slice?_eq_some_iff.mpr ⟨front ++ bracket.around piece.token, bracket.written more,
        ?_, ?_, ?_⟩
      · simp [written_cons]
      · rw [byteLength_append]
      · simp only [byteLength_append, Nat.add_assoc]
    rw [whole] at next
    rw [byteLength_append, spansBehind_cons, List.map_cons, here]
    simpa [Nat.add_assoc, written_cons] using next

theorem Tiles.slices (h : bracket.Tiles text before pieces) :
    (bracket.textSpans text).map (fun span => slice? span.1 span.2 text) =
      (pieces.map MarkedText.text).map some := by
  rw [textSpans, h.scan_eq, h.whole]
  exact slices_foundFrom before pieces

/-- Each marker that was found has the token of its piece. -/
theorem choices_foundFrom (place : Nat) (pieces : List MarkedText) :
    (((bracket.foundFrom place pieces).zip (pieces.map MarkedText.text)).filterMap fun entry =>
        (entry.1.found.captures.lookup "mod").bind fun token =>
          MarkedText.choice? ⟨token, entry.2⟩) = pieces.filterMap MarkedText.choice? := by
  induction pieces generalizing place with
  | nil => rfl
  | cons piece more ih =>
    have token : (markerMatch bracket piece.token (piece.text ++ bracket.written more)).captures.lookup
        "mod" = some piece.token := rfl
    rw [foundFrom, List.map_cons, List.zip_cons_cons, List.filterMap_cons, List.filterMap_cons, ih]
    simp only [token, Option.bind_some]

theorem Tiles.slicedChoices_eq (h : bracket.Tiles text before pieces) :
    slicedChoices text bracket = some (pieces.filterMap MarkedText.choice?) := by
  rw [slicedChoices, mapM_eq_some_of_map h.slices, h.scan_eq, Option.map_some, choices_foundFrom]

end Bracket

/-- The choices of markers, from those with a text behind them. -/
theorem filterMap_choice? (pieces : List MarkedText) :
    pieces.filterMap MarkedText.choice? =
      (pieces.filter fun piece => trim piece.text ≠ []).map fun piece =>
        (Choice.ofText (trim piece.text)).withFlags (Flags.ofToken piece.token) := by
  induction pieces with
  | nil => rfl
  | cons piece more ih =>
    by_cases blank : trim piece.text = []
    · simp [MarkedText.choice?, blank, ih]
    · simp [MarkedText.choice?, blank, ih]

/-- **Markers tile a right-hand side.** A text can be written in exactly one way as a text followed by
markers of a kind, each with a text behind it, such that none of these texts holds a marker of that kind.
The choices of the text are, in this order, those of the markers with more than blanks behind them: value
and label are parted in the trimmed text, and the token gives the flags. Searching the pattern of a marker
from left to right and cutting the texts out by their bytes gives the same choices: each of the slices
has its start not behind its end and its end in the text, and they are the texts behind the markers. -/
theorem markers_tile (rhs : List Char) (bracket : Bracket) :
    ∃ before pieces, bracket.Tiles rhs before pieces ∧
      (∀ before' pieces', bracket.Tiles rhs before' pieces' →
        before' = before ∧ pieces' = pieces) ∧
      (markedChoices rhs bracket =
        (pieces.filter fun piece => trim piece.text ≠ []).map fun piece =>
          let parted := valueAndLabel (trim piece.text)
          let flags := Flags.ofToken piece.token
          ⟨String.ofList parted.1, String.ofList parted.2, flags.selected, flags.correct⟩) ∧
      (∀ span ∈ bracket.textSpans rhs, span.1 ≤ span.2 ∧ span.2 ≤ byteLength rhs) ∧
      (bracket.textSpans rhs).map (fun span => slice? span.1 span.2 rhs) =
        (pieces.map MarkedText.text).map some ∧
      slicedChoices rhs bracket = some (markedChoices rhs bracket) := by
  have tiles := bracket.tiles_cutMarkers rhs
  refine ⟨_, _, tiles, fun before' pieces' other => ?_, filterMap_choice? _, fun span hm => ?_,
    tiles.slices, tiles.slicedChoices_eq⟩
  · have same := other.cutMarkers_eq.symm.trans tiles.cutMarkers_eq
    exact Prod.mk.inj same
  · have cut : slice? span.1 span.2 rhs ∈ (bracket.textSpans rhs).map fun span =>
        slice? span.1 span.2 rhs := List.mem_map_of_mem hm
    rw [tiles.slices] at cut
    obtain ⟨inside, -, taken⟩ := List.mem_map.mp cut
    obtain ⟨front, back, rfl, first, last⟩ := slice?_eq_some_iff.mp taken.symm
    rw [first, last]
    simp only [byteLength_append]
    omega

/-- Brackets without a partner, and a letter of two bytes. -/
example : Bracket.round.textSpans "é) (x) A ((=)) []".toList = [(7, 11), (14, 18)] := by decide

end Questionnaire
