import Mathlib.Data.List.Infix
import Questionnaire.Field.Marker
import Questionnaire.Proofs.Text.LowerCase
import Questionnaire.Proofs.Text.Runs

/-! # Markers and the texts between them

No token holds a bracket, so a marker ends at the first bracket behind the one that opens it, and two
markers never share a character. Scanning from the left therefore finds all markers that were written,
and none besides where the texts between them hold none.
-/

namespace Questionnaire
open Text

inductive IsToken : List Char → Prop
  | flags {token : List Char} (short : token.length ≤ 3)
      (flag : ∀ c ∈ token, isFlagChar c = true) : IsToken token
  | single {c : Char} (plain : isBracket c = false) : IsToken [c]

instance (token : List Char) : Decidable (IsToken token) :=
  decidable_of_iff
    ((token.length ≤ 3 ∧ token.all isFlagChar = true) ∨
      (token.length = 1 ∧ token.all isBracket = false)) <| by
    constructor
    · rintro (⟨short, flag⟩ | ⟨one, plain⟩)
      · exact .flags short (List.all_eq_true.mp flag)
      · obtain ⟨c, rfl⟩ := List.length_eq_one_iff.mp one
        exact .single (by simpa using plain)
    · intro h
      cases h with
      | flags short flag => exact .inl ⟨short, List.all_eq_true.mpr flag⟩
      | single plain => exact .inr ⟨rfl, by simpa using plain⟩

theorem isBracket_of_isFlagChar {c : Char} (h : isFlagChar c = true) : isBracket c = false := by
  simp only [isFlagChar, Bool.or_eq_true, decide_eq_true_eq] at h
  rcases h with ((rfl | rfl) | rfl) | rfl <;> decide

theorem isFlagChar_of_isBracket {c : Char} (h : isBracket c = true) : isFlagChar c = false := by
  by_contra flag
  rw [isBracket_of_isFlagChar (by simpa using flag)] at h
  cases h

theorem IsToken.not_isBracket {token : List Char} (h : IsToken token) :
    ∀ c ∈ token, isBracket c = false := by
  intro c hc
  cases h with
  | flags short flag => exact isBracket_of_isFlagChar (flag c hc)
  | single plain => rwa [List.mem_singleton.mp hc]

section ReadToken

variable {closes : Char → Bool} {text token after : List Char} {closing : Char}

theorem readToken?_token (brackets : ∀ c, closes c = true → isBracket c = true) (h : IsToken token)
    (closed : closes closing = true) :
    readToken? closes (token ++ closing :: after) = some ⟨token, closing, after⟩ := by
  have noFlag : isFlagChar closing = false := isFlagChar_of_isBracket (brackets _ closed)
  have stop : ∀ c ∈ (closing :: after).head?, isFlagChar c = false := by simpa using noFlag
  cases h with
  | flags short flag =>
    unfold readToken?
    simp only [takeWhile_run flag stop, dropWhile_run flag stop]
    rw [if_pos closed, if_pos short]
  | @single c plain =>
    have open' : closes c = false := by
      by_contra he
      rw [brackets c (by simpa using he)] at plain
      cases plain
    cases flag : isFlagChar c with
    | true =>
      have flags : ∀ d ∈ [c], isFlagChar d = true := by simpa using flag
      unfold readToken?
      simp only [takeWhile_run flags stop, dropWhile_run flags stop]
      rw [if_pos closed, if_pos (by simp)]
    | false => simp [readToken?, flag, open', plain, closed]

theorem of_readToken? (h : readToken? closes text = some ⟨token, closing, after⟩) :
    IsToken token ∧ closes closing = true ∧ text = token ++ closing :: after := by
  obtain ⟨flags, rest, rfl, flag, stop⟩ := exists_run isFlagChar text
  unfold readToken? at h
  simp only [takeWhile_run flag stop, dropWhile_run flag stop] at h
  cases rest with
  | nil => cases h
  | cons c rest =>
    dsimp only at h
    split at h
    · rename_i closed
      split at h
      · rename_i short
        cases h
        exact ⟨.flags short flag, closed, rfl⟩
      · cases h
    · split at h
      · rename_i lone
        rw [Bool.and_eq_true, List.isEmpty_iff, Bool.not_eq_true'] at lone
        obtain ⟨rfl, plain⟩ := lone
        split at h
        · rename_i d back
          split at h
          · rename_i closed
            cases h
            exact ⟨.single plain, closed, rfl⟩
          · cases h
        · cases h
      · cases h

end ReadToken

namespace Bracket

variable {bracket : Bracket} {text before token : List Char}

def around (bracket : Bracket) (text : List Char) : List Char :=
  bracket.opening :: text ++ [bracket.closing]

def Marks (bracket : Bracket) (text : List Char) : Prop :=
  ∃ token, IsToken token ∧ bracket.around token <:+: text

theorem getLast?_around (bracket : Bracket) (text : List Char) :
    (bracket.around text).getLast? = some bracket.closing := by
  rw [around, List.getLast?_concat]

theorem isBracket_opening (bracket : Bracket) : isBracket bracket.opening = true := by
  cases bracket <;> decide

theorem isBracket_closing (bracket : Bracket) : isBracket bracket.closing = true := by
  cases bracket <;> decide

theorem ofOpening?_opening (bracket : Bracket) : ofOpening? bracket.opening = some bracket := by
  cases bracket <;> rfl

theorem of_ofOpening? {c : Char} (h : ofOpening? c = some bracket) : c = bracket.opening := by
  unfold ofOpening? at h
  split at h
  · rename_i round
    cases h
    exact round
  · split at h
    · rename_i square
      cases h
      exact square
    · cases h

theorem ofOpening?_eq_none {c : Char} (h : c ≠ '(' ∧ c ≠ '[') : ofOpening? c = none := by
  rw [ofOpening?, if_neg h.1, if_neg h.2]

theorem opening_ne_closing (bracket : Bracket) : bracket.opening ≠ bracket.closing := by
  cases bracket <;> decide

theorem opening_inj {bracket other : Bracket} (h : bracket.opening = other.opening) :
    bracket = other := by
  cases bracket <;> cases other <;> first | rfl | cases h

theorem around_inj {bracket other : Bracket} {text text' : List Char}
    (h : bracket.around text = other.around text') : bracket = other ∧ text = text' := by
  rw [around, around, List.cons_append, List.cons_append] at h
  obtain ⟨first, rest⟩ := List.cons.inj h
  obtain rfl := opening_inj first
  exact ⟨rfl, List.append_cancel_right rest⟩

theorem isBracket_of_closes {c : Char} (h : decide (c = bracket.closing) = true) :
    isBracket c = true := by
  rw [of_decide_eq_true h, isBracket_closing]

theorem leadingToken?_of_head? (h : text.head? ≠ some bracket.opening) :
    bracket.leadingToken? text = none := by
  cases text with
  | nil => rfl
  | cons c rest =>
    have other : c ≠ bracket.opening := by simpa using h
    rw [leadingToken?, if_neg other]

theorem leadingToken?_around (h : IsToken token) (rest : List Char) :
    bracket.leadingToken? (bracket.around token ++ rest) = some token := by
  have read : readToken? (· = bracket.closing) (token ++ bracket.closing :: rest) =
      some ⟨token, bracket.closing, rest⟩ :=
    readToken?_token (fun _ => isBracket_of_closes) h (decide_eq_true rfl)
  simp [leadingToken?, around, read]

/-- A marker in front of a text is told from the text behind it. -/
theorem around_append_inj {other : Bracket} {token' rest rest' : List Char} (isToken : IsToken token)
    (isToken' : IsToken token')
    (h : bracket.around token ++ rest = other.around token' ++ rest') :
    bracket = other ∧ token = token' ∧ rest = rest' := by
  have first : bracket.opening = other.opening := by
    simp only [around, List.cons_append] at h
    exact (List.cons.inj h).1
  obtain rfl := opening_inj first
  have lead := @leadingToken?_around bracket token isToken rest
  rw [h, leadingToken?_around isToken'] at lead
  obtain rfl := Option.some.inj lead
  exact ⟨rfl, rfl, List.append_cancel_left h⟩

theorem of_leadingToken? (h : bracket.leadingToken? text = some token) :
    IsToken token ∧ bracket.around token <+: text := by
  cases text with
  | nil => cases h
  | cons c rest =>
    rw [leadingToken?] at h
    split at h
    · rename_i opened
      obtain ⟨⟨token', closing, after⟩, read, rfl⟩ := Option.map_eq_some_iff.mp h
      obtain ⟨isToken, closed, rfl⟩ := of_readToken? read
      refine ⟨isToken, after, ?_⟩
      simp [around, opened, of_decide_eq_true closed]
    · cases h

theorem leadingToken?_eq_none (h : ¬ bracket.Marks text) : bracket.leadingToken? text = none := by
  by_contra found
  obtain ⟨token, lead⟩ := Option.ne_none_iff_exists'.mp found
  obtain ⟨isToken, first⟩ := of_leadingToken? lead
  exact h ⟨token, isToken, first.isInfix⟩

theorem marks_cons_iff {c : Char} :
    bracket.Marks (c :: text) ↔
      (bracket.leadingToken? (c :: text)).isSome ∨ bracket.Marks text := by
  constructor
  · rintro ⟨token, isToken, inside⟩
    rcases List.infix_cons_iff.mp inside with ⟨back, whole⟩ | below
    · left
      rw [← whole, leadingToken?_around isToken]
      rfl
    · exact .inr ⟨token, isToken, below⟩
  · rintro (found | ⟨token, isToken, below⟩)
    · obtain ⟨token, lead⟩ := Option.isSome_iff_exists.mp found
      obtain ⟨isToken, first⟩ := of_leadingToken? lead
      exact ⟨token, isToken, first.isInfix⟩
    · exact ⟨token, isToken, List.infix_cons below⟩

theorem not_marks_of_not_mem (h : bracket.opening ∉ text) : ¬ bracket.Marks text := by
  rintro ⟨token, -, inside⟩
  exact h (inside.subset (by simp [around]))

theorem not_marks_of_cons {c : Char} (h : ¬ bracket.Marks (c :: text)) : ¬ bracket.Marks text :=
  fun below => h (marks_cons_iff.mpr (.inr below))

theorem Marks.of_cons {c : Char} (h : bracket.Marks (c :: text)) (other : c ≠ bracket.opening) :
    bracket.Marks text := by
  refine (marks_cons_iff.mp h).resolve_left ?_
  rw [leadingToken?_of_head? (by simpa using other)]
  simp

theorem Marks.of_concat {c : Char} (h : bracket.Marks (text ++ [c])) (other : c ≠ bracket.closing) :
    bracket.Marks text := by
  obtain ⟨token, isToken, inside⟩ := h
  refine ⟨token, isToken, (List.infix_concat_iff.mp inside).resolve_left ?_⟩
  rintro ⟨front, whole⟩
  have last := congrArg List.getLast? whole
  rw [List.getLast?_append, getLast?_around, Option.some_or, List.getLast?_concat] at last
  exact other (Option.some.inj last).symm

def Leads (bracket : Bracket) (text : List Char) : Prop :=
  ∃ token, IsToken token ∧ bracket.around token <+: text

theorem leads_iff : bracket.Leads text ↔ (bracket.leadingToken? text).isSome := by
  constructor
  · rintro ⟨token, isToken, rest, rfl⟩
    rw [leadingToken?_around isToken]
    rfl
  · intro found
    obtain ⟨token, lead⟩ := Option.isSome_iff_exists.mp found
    exact ⟨token, of_leadingToken? lead⟩

instance (bracket : Bracket) (text : List Char) : Decidable (bracket.Leads text) :=
  decidable_of_iff _ leads_iff.symm

theorem Leads.head? (h : bracket.Leads text) : text.head? = some bracket.opening := by
  obtain ⟨token, -, rest, rfl⟩ := h
  rfl

theorem Leads.unique {other : Bracket} (h : bracket.Leads text) (h' : other.Leads text) :
    bracket = other := opening_inj (Option.some.inj (h.head?.symm.trans h'.head?))

theorem Leads.append (h : bracket.Leads text) (back : List Char) : bracket.Leads (text ++ back) := by
  obtain ⟨token, isToken, first⟩ := h
  exact ⟨token, isToken, first.trans (List.prefix_append text back)⟩

/-! ## Scanning -/

theorem cutMarkers_eq_drop (skip : Nat) (text : List Char) :
    bracket.cutMarkers skip text = bracket.cutMarkers 0 (text.drop skip) := by
  induction text generalizing skip with
  | nil => simp [cutMarkers]
  | cons c rest ih =>
    cases skip with
    | zero => rfl
    | succ skip => rw [cutMarkers, ih, List.drop_succ_cons]

theorem cutMarkers_cons {c : Char} (h : bracket.leadingToken? (c :: text) = none) :
    bracket.cutMarkers 0 (c :: text) =
      (c :: (bracket.cutMarkers 0 text).1, (bracket.cutMarkers 0 text).2) := by
  rw [cutMarkers, h]

theorem cutMarkers_around (h : IsToken token) (rest : List Char) :
    bracket.cutMarkers 0 (bracket.around token ++ rest) =
      ([], ⟨token, (bracket.cutMarkers 0 rest).1⟩ :: (bracket.cutMarkers 0 rest).2) := by
  have lead : bracket.leadingToken? (bracket.around token ++ rest) = some token :=
    leadingToken?_around h rest
  have behind : (token ++ [bracket.closing] ++ rest).drop (token.length + 1) = rest := by
    simp [List.drop_append]
  simp only [around, List.cons_append] at lead ⊢
  rw [cutMarkers, lead]
  dsimp only
  rw [cutMarkers_eq_drop, behind]

theorem opening_not_mem (h : IsToken token) : bracket.opening ∉ token ++ [bracket.closing] := by
  intro hm
  rcases List.mem_append.mp hm with hm | hm
  · have plain := h.not_isBracket _ hm
    rw [isBracket_opening] at plain
    cases plain
  · exact bracket.opening_ne_closing (List.mem_singleton.mp hm)

/-- A marker that has been opened is closed before the next one opens. -/
theorem closed_before_marker {rest back : List Char} (isToken : IsToken token)
    (stop : rest = [] ∨ bracket.Leads rest)
    (whole : token ++ [bracket.closing] ++ back = before ++ rest) :
    ∃ after, before = token ++ [bracket.closing] ++ after := by
  rcases List.append_eq_append_iff.mp whole with ⟨after, here, -⟩ | ⟨past, here, next⟩
  · exact ⟨after, here⟩
  · cases past with
    | nil => exact ⟨[], by simpa using here.symm⟩
    | cons d past =>
      obtain ⟨other, -, further⟩ := stop.resolve_left (by simp [next])
      rw [next, around, List.cons_append, List.cons_append] at further
      have opens : bracket.opening = d := (List.cons_prefix_cons.mp further).1
      have inside : bracket.opening ∈ token ++ [bracket.closing] := by
        rw [here, opens]
        simp
      exact absurd inside (opening_not_mem isToken)

/-- Text without a marker is passed over, also when a marker follows. -/
theorem leadingToken?_before_marker {c : Char} (h : ¬ bracket.Marks (c :: before))
    (isToken : IsToken token) (rest : List Char) :
    bracket.leadingToken? (c :: before ++ (bracket.around token ++ rest)) = none := by
  by_contra found
  obtain ⟨other, lead⟩ := Option.ne_none_iff_exists'.mp found
  obtain ⟨isOther, back, whole⟩ := of_leadingToken? lead
  rw [around, List.cons_append, List.cons_append, List.cons_append] at whole
  obtain ⟨rfl, behind⟩ := List.cons.inj whole
  obtain ⟨after, rfl⟩ := closed_before_marker isOther
    (.inr ⟨token, isToken, List.prefix_append _ rest⟩) behind
  exact h ⟨other, isOther, [], after, by simp [around]⟩

theorem cutMarkers_of_not_marks (h : ¬ bracket.Marks text) :
    bracket.cutMarkers 0 text = (text, []) := by
  induction text with
  | nil => rfl
  | cons c text ih =>
    rw [cutMarkers_cons (leadingToken?_eq_none h), ih (not_marks_of_cons h)]

/-- A text holds a marker just where scanning finds one. -/
theorem marks_iff : bracket.Marks text ↔ bracket.markedTexts text ≠ [] := by
  constructor
  · intro marks none
    induction text with
    | nil => exact not_marks_of_not_mem (by simp) marks
    | cons c text ih =>
      rcases marks_cons_iff.mp marks with found | below
      · obtain ⟨token, lead⟩ := Option.isSome_iff_exists.mp found
        simp [markedTexts, cutMarkers, lead] at none
      · cases lead : bracket.leadingToken? (c :: text) with
        | some token => simp [markedTexts, cutMarkers, lead] at none
        | none =>
          rw [markedTexts, cutMarkers_cons lead] at none
          exact ih below none
  · intro found
    by_contra h
    rw [markedTexts, cutMarkers_of_not_marks h] at found
    exact found rfl

instance (bracket : Bracket) (text : List Char) : Decidable (bracket.Marks text) :=
  decidable_of_iff (bracket.markedTexts text ≠ []) marks_iff.symm

theorem cutMarkers_append_marker (h : ¬ bracket.Marks before) (isToken : IsToken token)
    (rest : List Char) :
    bracket.cutMarkers 0 (before ++ (bracket.around token ++ rest)) =
      (before, ⟨token, (bracket.cutMarkers 0 rest).1⟩ :: (bracket.cutMarkers 0 rest).2) := by
  induction before with
  | nil => rw [List.nil_append, cutMarkers_around isToken]
  | cons c before ih =>
    have lead := leadingToken?_before_marker h isToken rest
    rw [List.cons_append] at lead ⊢
    rw [cutMarkers_cons lead, ih (not_marks_of_cons h)]

def written (bracket : Bracket) (pieces : List MarkedText) : List Char :=
  pieces.flatMap fun piece => bracket.around piece.token ++ piece.text

/-- **Scanning undoes writing.** Markers are found with the texts behind them, wherever no text holds
a marker of its own. -/
theorem cutMarkers_written {pieces : List MarkedText} (h : ¬ bracket.Marks before)
    (plain : ∀ piece ∈ pieces, IsToken piece.token ∧ ¬ bracket.Marks piece.text) :
    bracket.cutMarkers 0 (before ++ bracket.written pieces) = (before, pieces) := by
  induction pieces generalizing before with
  | nil => simpa [written] using cutMarkers_of_not_marks h
  | cons piece pieces ih =>
    obtain ⟨⟨isToken, unmarked⟩, others⟩ := List.forall_mem_cons.mp plain
    rw [written, List.flatMap_cons, List.append_assoc, cutMarkers_append_marker h isToken]
    have more := ih unmarked others
    rw [written] at more
    rw [more]

/-! ## What scanning finds -/

theorem written_append (front back : List MarkedText) :
    bracket.written (front ++ back) = bracket.written front ++ bracket.written back :=
  List.flatMap_append

theorem written_cons (piece : MarkedText) (more : List MarkedText) :
    bracket.written (piece :: more) =
      bracket.around piece.token ++ piece.text ++ bracket.written more := rfl

theorem written_empty_or_leads {pieces : List MarkedText}
    (plain : ∀ piece ∈ pieces, IsToken piece.token ∧ ¬ bracket.Marks piece.text) :
    bracket.written pieces = [] ∨ bracket.Leads (bracket.written pieces) := by
  cases pieces with
  | nil => exact .inl rfl
  | cons piece more =>
    refine .inr ⟨piece.token, (plain piece (by simp)).1, ?_⟩
    rw [written_cons, List.append_assoc]
    exact List.prefix_append _ _

/-- Every text is written from markers with texts behind them, after some text in front. -/
theorem exists_written (bracket : Bracket) (text : List Char) :
    ∃ before pieces, text = before ++ bracket.written pieces ∧ ¬ bracket.Marks before ∧
      ∀ piece ∈ pieces, IsToken piece.token ∧ ¬ bracket.Marks piece.text := by
  induction text with
  | nil =>
    exact ⟨[], [], rfl, not_marks_of_not_mem (by simp), by simp⟩
  | cons c rest ih =>
    obtain ⟨before, pieces, whole, unmarked, plain⟩ := ih
    by_cases lead : bracket.Leads (c :: rest)
    · -- the marker in front is behind `c` part of the text before the next one
      obtain ⟨token, isToken, back, same⟩ := lead
      simp only [around, List.cons_append, List.cons.injEq] at same
      obtain ⟨rfl, same⟩ := same
      obtain ⟨after, rfl⟩ := closed_before_marker isToken (written_empty_or_leads plain)
        (same.trans whole)
      refine ⟨[], ⟨token, after⟩ :: pieces, ?_, not_marks_of_not_mem (by simp), ?_⟩
      · simp [whole, written_cons, around]
      · refine List.forall_mem_cons.mpr ⟨⟨isToken, ?_⟩, plain⟩
        rintro ⟨other, isToken', inside⟩
        exact unmarked ⟨other, isToken', inside.trans (List.suffix_append _ _).isInfix⟩
    · refine ⟨c :: before, pieces, by rw [whole, List.cons_append], ?_, plain⟩
      intro marks
      rcases marks_cons_iff.mp marks with found | below
      · have front := (leads_iff.mpr found).append (bracket.written pieces)
        rw [List.cons_append, ← whole] at front
        exact lead front
      · exact unmarked below

/-- Scanning finds every marker, with the text behind it up to the next one. -/
theorem mem_markedTexts_iff {piece : MarkedText} :
    piece ∈ bracket.markedTexts text ↔
      ∃ before rest, text = before ++ (bracket.around piece.token ++ piece.text) ++ rest ∧
        IsToken piece.token ∧ ¬ bracket.Marks piece.text ∧ (rest = [] ∨ bracket.Leads rest) := by
  constructor
  · intro hm
    obtain ⟨front, pieces, rfl, unmarked, plain⟩ := exists_written bracket text
    rw [markedTexts, cutMarkers_written unmarked plain] at hm
    obtain ⟨above, below, rfl⟩ := List.append_of_mem hm
    obtain ⟨isToken, inside⟩ := plain piece (by simp)
    refine ⟨front ++ bracket.written above, bracket.written below, ?_, isToken, inside,
      written_empty_or_leads fun other ho => plain other (by simp [ho])⟩
    simp [written_append, written_cons]
  · rintro ⟨before, rest, rfl, isToken, inside, stop⟩
    obtain ⟨front, above, rfl, unmarked, plain⟩ := exists_written bracket before
    have tail : ∃ below, rest = bracket.written below ∧
        ∀ piece ∈ below, IsToken piece.token ∧ ¬ bracket.Marks piece.text := by
      obtain ⟨lead, below, rfl, unmarked', plain'⟩ := exists_written bracket rest
      have found := cutMarkers_written unmarked' plain'
      rcases stop with empty | ⟨token, isToken', back, same⟩
      · exact ⟨below, by rw [(List.append_eq_nil_iff.mp empty).1, List.nil_append], plain'⟩
      · rw [← same, cutMarkers_around isToken'] at found
        obtain ⟨rfl, -⟩ := Prod.mk.inj found
        exact ⟨below, by rw [List.nil_append], plain'⟩
    obtain ⟨below, rfl, plain'⟩ := tail
    have all : ∀ other ∈ above ++ piece :: below,
        IsToken other.token ∧ ¬ bracket.Marks other.text := by
      intro other ho
      rcases List.mem_append.mp ho with ho | ho
      · exact plain other ho
      · exact List.forall_mem_cons.mpr ⟨⟨isToken, inside⟩, plain'⟩ other ho
    have whole : front ++ bracket.written above ++ (bracket.around piece.token ++ piece.text) ++
        bracket.written below = front ++ bracket.written (above ++ piece :: below) := by
      simp [written_append, written_cons]
    rw [markedTexts, whole, cutMarkers_written unmarked all]
    simp

end Bracket

/-! ## Flags -/

theorem Flags.ofToken_eq (token : List Char) :
    ofToken token = ⟨token.contains 'x' || token.contains 'X', token.contains '='⟩ := by
  have selected : 'x' ∈ lowercase token ↔ 'x' ∈ token ∨ 'X' ∈ token := by
    simp only [mem_lowercase (show 'x' ≠ '\u03C3' by decide) (by decide), x_mem_lowerChar_iff]
    simp [and_or_left, exists_or]
  have correct : '=' ∈ lowercase token ↔ '=' ∈ token := by
    simp [mem_lowercase (show '=' ≠ '\u03C3' by decide) (by decide), equals_mem_lowerChar_iff]
  simp only [ofToken, Flags.mk.injEq]
  constructor
  · rw [Bool.eq_iff_iff]
    simpa using selected
  · rw [Bool.eq_iff_iff]
    simpa using correct

end Questionnaire
