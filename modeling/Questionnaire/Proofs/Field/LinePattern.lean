import Questionnaire.Proofs.Field.OptionLine
import Questionnaire.Proofs.Text.Pattern

/-! # Option lines as patterns

The grammar of option lines is also a list of six patterns, of which the first that matches decides:
a pair `^\((?P<value>.+?)\s*->\s*(?P<label>.+)\)$` in round brackets, the same in square ones, a bare
pair `^(?P<value>[^(\[].*?)\s*->\s*(?P<label>.+)$`, and then a value alone in the same three ways. The
blanks around an arrow can go to any of the runs beside them, and a line with several arrows can be
parted at each. The reader gives what the first match of the first pattern says.
-/

namespace Questionnaire
open Text Pattern

def arrowAndLabel (ending : Pattern) : Pattern :=
  .seq (.many isBlank) <| .seq (.one (· = '-')) <| .seq (.one (· = '>')) <| .seq (.many isBlank) <|
  .seq (.capture "label" (.seq (.one (· ≠ '\n')) (.many (· ≠ '\n')))) ending

def pairPattern (start : Char → Bool) (ending : Pattern) : Pattern :=
  .seq (.capture "value" (.seq (.one start) (.few (· ≠ '\n')))) (arrowAndLabel ending)

def valuePattern (start : Char → Bool) (ending : Pattern) : Pattern :=
  .seq (.capture "value" (.seq (.one start) (.many (· ≠ '\n')))) ending

def inBrackets (bracket : Bracket) (inner : (Char → Bool) → Pattern → Pattern) : Pattern :=
  .seq (.one (· = bracket.opening)) (inner (· ≠ '\n') (.seq (.one (· = bracket.closing)) .ended))

def unbracketed (inner : (Char → Bool) → Pattern → Pattern) : Pattern :=
  inner (fun c => c ≠ '(' && c ≠ '[') .ended

/-- The patterns in the order in which they are tried, with the brackets that they say. -/
def linePatterns : List (Option Bracket × Pattern) := [
  (some .round, inBrackets .round pairPattern),
  (some .square, inBrackets .square pairPattern),
  (none, unbracketed pairPattern),
  (some .round, inBrackets .round valuePattern),
  (some .square, inBrackets .square valuePattern),
  (none, unbracketed valuePattern)]

/-- Value and label that a match says; without a label the value is both. -/
def lineTexts (m : Match) : List Char × List Char :=
  let value := trim ((m.captures.lookup "value").getD [])
  (value, ((m.captures.lookup "label").map trim).getD value)

def firstTexts (pattern : Pattern) (line : List Char) : Option (List Char × List Char) :=
  (pattern.results line).head?.map lineTexts

theorem firstTexts_eq (pattern : Pattern) (line : List Char) :
    firstTexts pattern line = pattern.firstOf line fun m => some (lineTexts m) := by
  unfold firstTexts firstOf
  cases pattern.results line <;> rfl

/-! ## Endings -/

/-- A pattern that matches one text only, and that to its end. -/
def Ends (ending : Pattern) (tail : List Char) : Prop :=
  ∀ text m, m ∈ ending.results text ↔ text = tail ∧ m = ⟨tail, [], []⟩

theorem ends_ended : Ends .ended [] := fun text m => by
  rw [mem_ended]
  rfl

theorem ends_closing (closing : Char) : Ends (.seq (.one (· = closing)) .ended) [closing] := by
  intro text m
  rw [mem_seq]
  constructor
  · rintro ⟨first, hf, last, hl, rfl⟩
    obtain ⟨c, same, rfl, taken, captures⟩ := mem_one hf
    obtain ⟨rest, rfl⟩ := mem_ended.mp hl
    rw [rest, of_decide_eq_true same]
    simp [Match.andThen, Match.none, taken, captures, of_decide_eq_true same]
  · rintro ⟨rfl, rfl⟩
    refine ⟨⟨[closing], [], []⟩, ?_, .none [], mem_ended.mpr ⟨rfl, rfl⟩, rfl⟩
    rw [results_one, single, if_pos (by simp)]
    simp

/-! ## An arrow and its label -/

theorem forall_ne_feed {text : List Char} (free : '\n' ∉ text) :
    ∀ c ∈ text, decide (c ≠ '\n') = true := fun _ hc =>
  decide_eq_true fun feed => free (feed ▸ hc)

def labelled? (ending : Pattern) (value text : List Char) : Option (List Char × List Char) :=
  (arrowAndLabel ending).firstOf text fun m =>
    some (trim value, ((m.captures.lookup "label").map trim).getD (trim value))

section

variable {ending : Pattern} {tail text blanks after : List Char}

theorem mem_arrowAndLabel (ends : Ends ending tail) {m : Match}
    (h : m ∈ (arrowAndLabel ending).results text) :
    ∃ blanks after label, text = blanks ++ '-' :: '>' :: (after ++ tail) ∧
      (∀ c ∈ blanks, isBlank c = true) ∧ after ≠ [] ∧ m.captures = [("label", label)] ∧
      trim label = trim after := by
  obtain ⟨before, hb, _, h1, rfl⟩ := mem_seq.mp h
  obtain ⟨dash, hd, _, h2, rfl⟩ := mem_seq.mp h1
  obtain ⟨tip, ht, _, h3, rfl⟩ := mem_seq.mp h2
  obtain ⟨behind, hbe, _, h4, rfl⟩ := mem_seq.mp h3
  obtain ⟨_, hl, last, he, rfl⟩ := mem_seq.mp h4
  obtain ⟨_, hw, rfl⟩ := mem_capture.mp hl
  obtain ⟨first, hf, more, hm, rfl⟩ := mem_seq.mp hw
  obtain ⟨rfl, blank, noBefore⟩ := mem_many hb
  obtain ⟨c, isDash, atDash, -, noDash⟩ := mem_one hd
  obtain ⟨d, isTip, atTip, -, noTip⟩ := mem_one ht
  obtain ⟨atBlanks, blank', noBehind⟩ := mem_many hbe
  obtain ⟨e, -, atLabel, labelFirst, noFirst⟩ := mem_one hf
  obtain ⟨atMore, -, noMore⟩ := mem_many hm
  obtain ⟨atEnd, rfl⟩ := (ends _ _).mp he
  refine ⟨before.taken, behind.taken ++ (first.taken ++ more.taken), first.taken ++ more.taken,
    ?_, blank, by simp [labelFirst], ?_, (trim_append_left blank' _).symm⟩
  · have atEnd : more.rest = tail := atEnd
    rw [atDash, of_decide_eq_true isDash, atTip, of_decide_eq_true isTip, atBlanks, atLabel,
      atMore, atEnd, labelFirst]
    simp
  · simp [Match.andThen, noBefore, noDash, noTip, noBehind, noFirst, noMore]

theorem exists_mem_arrowAndLabel (ends : Ends ending tail) (blank : ∀ c ∈ blanks, isBlank c = true)
    (occupied : after ≠ []) (free : '\n' ∉ after) :
    ∃ m, m ∈ (arrowAndLabel ending).results (blanks ++ '-' :: '>' :: (after ++ tail)) := by
  obtain ⟨c, rest, rfl⟩ := List.exists_cons_of_ne_nil occupied
  obtain ⟨here, others⟩ := List.forall_mem_cons.mp (forall_ne_feed free)
  have label : ∃ m ∈ (capture "label" (.seq (.one (· ≠ '\n')) (.many (· ≠ '\n')))).results
      (c :: (rest ++ tail)), m.rest = tail :=
    ⟨_, mem_capture.mpr ⟨_, andThen_mem_seq (mem_one_cons here _) (mem_many_append others tail), rfl⟩,
      rfl⟩
  obtain ⟨taken, hm, left⟩ := label
  have last : ⟨tail, [], []⟩ ∈ ending.results taken.rest := (ends _ _).mpr ⟨left, rfl⟩
  -- the label has the blanks behind the arrow
  have gap : ⟨[], [], c :: (rest ++ tail)⟩ ∈ (many isBlank).results (c :: (rest ++ tail)) :=
    @mem_many_append _ [] (by simp) _
  exact ⟨_, andThen_mem_seq (mem_many_append blank _) <|
    andThen_mem_seq (mem_one_cons rfl _) <| andThen_mem_seq (mem_one_cons rfl _) <|
    andThen_mem_seq gap <| andThen_mem_seq hm last⟩

/-- All matches of an arrow and a label say the same, wherever they put the blanks. -/
theorem labelled?_arrow (ends : Ends ending tail) (value : List Char)
    (blank : ∀ c ∈ blanks, isBlank c = true) (occupied : after ≠ []) (free : '\n' ∉ after) :
    labelled? ending value (blanks ++ '-' :: '>' :: (after ++ tail)) =
      some (trim value, trim after) := by
  obtain ⟨m, hm⟩ := exists_mem_arrowAndLabel ends blank occupied free
  refine firstOf_eq_some hm fun other ho => ?_
  obtain ⟨blanks', after', label, same, blank', -, captures, trimmed⟩ := mem_arrowAndLabel ends ho
  have stop : ∀ back, ∀ c ∈ ('-' :: '>' :: back).head?, isBlank c = false := by
    intro back c hc
    cases hc
    decide
  have behind := congrArg (List.dropWhile isBlank) same
  rw [dropWhile_run blank (stop _), dropWhile_run blank' (stop _)] at behind
  have afters : after = after' := by simpa using behind
  rw [captures, afters, ← trimmed]
  rfl

theorem labelled?_eq_none (ends : Ends ending tail) (value : List Char)
    (h : ∀ blanks after, (∀ c ∈ blanks, isBlank c = true) → after ≠ [] →
      text ≠ blanks ++ '-' :: '>' :: (after ++ tail)) : labelled? ending value text = none := by
  refine firstOf_eq_none fun m hm => ?_
  obtain ⟨blanks, after, label, same, blank, occupied, -⟩ := mem_arrowAndLabel ends hm
  exact absurd same (h blanks after blank occupied)

end

/-! ## Pairs -/

theorem partAtArrow?_blanks {seen blanks after : List Char} (occupied : seen ≠ [])
    (blank : ∀ c ∈ blanks, isBlank c = true) (behind : after ≠ [])
    (seenFree : '\n' ∉ seen) (free : '\n' ∉ blanks ++ '-' :: '>' :: after) :
    partAtArrow? seen (blanks ++ '-' :: '>' :: after) = some (trim seen.reverse, trim after) := by
  rw [partAtArrow?_eq occupied seenFree free, cutAtArrow_append (not_hasArrow_of_blank blank),
    Option.bind_some]
  dsimp only
  rw [if_neg (by simpa using behind), trim_append_right blank]

section

variable {start : Char → Bool} {ending : Pattern} {tail : List Char}

/-- The first arrow that parts the text is the one that the shortest value leads to. -/
theorem firstOf_few_labelled? (ends : Ends ending tail) {seen body : List Char}
    (occupied : seen ≠ []) (seenFree : '\n' ∉ seen) (free : '\n' ∉ body) :
    ((few (· ≠ '\n')).firstOf (body ++ tail) fun m =>
      labelled? ending (seen.reverse ++ m.taken) m.rest) = partAtArrow? seen body := by
  -- on what the value could still take; the part that it has taken stands in `seen`
  induction body generalizing seen with
  | nil =>
    refine firstOf_eq_none fun m hm => labelled?_eq_none ends _ fun blanks after _ _ same => ?_
    obtain ⟨whole, -, -⟩ := mem_runs hm
    have long := congrArg List.length whole
    rw [same] at long
    simp only [List.length_append, List.length_cons, List.length_nil] at long
    omega
  | cons c body ih =>
    rw [List.mem_cons, not_or] at free
    have goOn := @ih (c :: seen) (List.cons_ne_nil _ _) (by simp [free.1, seenFree]) free.2
    rw [List.cons_append, firstOf_few_cons (decide_eq_true (Ne.symm free.1))]
    simp only [List.reverse_cons, List.append_assoc, List.singleton_append] at goOn
    simp only [Match.none, List.append_nil]
    rw [goOn]
    -- the value ends here if no more than blanks stand before an arrow, or else it goes on
    by_cases arrow : ∃ blanks after, (∀ d ∈ blanks, isBlank d = true) ∧ after ≠ [] ∧
        c :: body = blanks ++ '-' :: '>' :: after
    · obtain ⟨blanks, after, blank, behind, same⟩ := arrow
      have line : '\n' ∉ blanks ++ '-' :: '>' :: after := by
        rw [← same]
        simp [free.1, free.2]
      have afterFree : '\n' ∉ after := fun hm => line (by simp [hm])
      have text : c :: (body ++ tail) = blanks ++ '-' :: '>' :: (after ++ tail) := by
        rw [← List.cons_append, same]
        simp
      rw [text, labelled?_arrow ends _ blank behind afterFree, same,
        partAtArrow?_blanks occupied blank behind seenFree line, Option.some_or]
    · have off : labelled? ending seen.reverse (c :: (body ++ tail)) = none := by
        refine labelled?_eq_none ends _ fun blanks after blank behind same => arrow ?_
        have front : c :: body ++ tail = (blanks ++ '-' :: '>' :: after) ++ tail := by
          simpa using same
        exact ⟨blanks, after, blank, behind, List.append_cancel_right front⟩
      rw [off, Option.none_or, partAtArrow?_pass]
      intro after behind same
      exact arrow ⟨[], after, by simp, behind, same⟩

theorem firstTexts_pair (ends : Ends ending tail) {c : Char} {rest : List Char}
    (inside : start c = true) (free : '\n' ∉ c :: rest) :
    firstTexts (pairPattern start ending) (c :: rest ++ tail) = partAtArrow? [] (c :: rest) := by
  rw [List.mem_cons, not_or] at free
  rw [partAtArrow?_nil_cons,
    ← firstOf_few_labelled? ends (List.cons_ne_nil c []) (by simpa using free.1) free.2,
    firstTexts_eq, pairPattern, firstOf_seq, firstOf_capture, firstOf_seq, List.cons_append,
    firstOf_one inside]
  refine firstOf_congr fun m hm => ?_
  obtain ⟨-, -, none⟩ := mem_runs hm
  unfold labelled?
  refine firstOf_congr fun n _ => ?_
  simp only [Match.andThen, none, List.nil_append]
  rfl

theorem mem_pairPattern (ends : Ends ending tail) {text : List Char} {m : Match}
    (h : m ∈ (pairPattern start ending).results text) :
    ∃ c rest, start c = true ∧ text = c :: rest ++ tail := by
  obtain ⟨_, hv, label, hl, -⟩ := mem_seq.mp h
  obtain ⟨_, hw, rfl⟩ := mem_capture.mp hv
  obtain ⟨first, hf, more, hm, rfl⟩ := mem_seq.mp hw
  obtain ⟨c, inside, rfl, -⟩ := mem_one hf
  obtain ⟨behind, -⟩ := mem_runs hm
  obtain ⟨blanks, after, _, arrow, -⟩ := mem_arrowAndLabel ends hl
  have rest : more.rest = blanks ++ '-' :: '>' :: (after ++ tail) := arrow
  refine ⟨c, more.taken ++ (blanks ++ '-' :: '>' :: after), inside, ?_⟩
  rw [behind, rest]
  simp

/-! ## Values alone -/

theorem mem_valuePattern (ends : Ends ending tail) {text : List Char} {m : Match}
    (h : m ∈ (valuePattern start ending).results text) :
    ∃ c rest, start c = true ∧ text = c :: rest ++ tail ∧ m.captures = [("value", c :: rest)] := by
  obtain ⟨_, hv, last, he, rfl⟩ := mem_seq.mp h
  obtain ⟨_, hw, rfl⟩ := mem_capture.mp hv
  obtain ⟨first, hf, more, hm, rfl⟩ := mem_seq.mp hw
  obtain ⟨c, inside, rfl, taken, noFirst⟩ := mem_one hf
  obtain ⟨behind, -, noMore⟩ := mem_many hm
  obtain ⟨atEnd, rfl⟩ := (ends _ _).mp he
  have rest : more.rest = tail := atEnd
  refine ⟨c, more.taken, inside, ?_, ?_⟩
  · rw [behind, rest]
    rfl
  · simp [Match.andThen, taken, noFirst, noMore]

theorem firstTexts_value (ends : Ends ending tail) {c : Char} {rest : List Char}
    (inside : start c = true) (free : '\n' ∉ c :: rest) :
    firstTexts (valuePattern start ending) (c :: rest ++ tail) =
      some (trim (c :: rest), trim (c :: rest)) := by
  rw [List.mem_cons, not_or] at free
  have value := andThen_mem_seq (mem_one_cons inside (rest ++ tail))
    (mem_many_append (forall_ne_feed free.2) tail)
  have found : ∃ m, m ∈ (valuePattern start ending).results (c :: (rest ++ tail)) :=
    ⟨_, andThen_mem_seq (mem_capture.mpr ⟨_, value, rfl⟩) ((ends tail _).mpr ⟨rfl, rfl⟩)⟩
  obtain ⟨first, hf⟩ := found
  rw [firstTexts_eq, List.cons_append]
  refine firstOf_eq_some hf fun m hm => ?_
  obtain ⟨d, more, -, same, captures⟩ := mem_valuePattern ends hm
  have whole : c :: rest = d :: more := List.append_cancel_right same
  rw [lineTexts, captures, ← whole]
  rfl

end

/-! ## The reader and the patterns -/

/-- What the first matches of a family of patterns say, in and out of brackets. -/
structure Tells (inner : (Char → Bool) → Pattern → Pattern)
    (told : List Char → Option (List Char × List Char)) : Prop where
  text : ∀ {start ending tail}, Ends ending tail → ∀ {text m},
    m ∈ (inner start ending).results text → ∃ c rest, start c = true ∧ text = c :: rest ++ tail
  told : ∀ {start ending tail}, Ends ending tail → ∀ {c rest},
    start c = true → '\n' ∉ c :: rest →
      firstTexts (inner start ending) (c :: rest ++ tail) = told (c :: rest)

def alone? (text : List Char) : Option (List Char × List Char) := some (trim text, trim text)

theorem tells_pair : Tells pairPattern (partAtArrow? []) where
  text := mem_pairPattern
  told := firstTexts_pair

theorem tells_value : Tells valuePattern alone? where
  text ends _ _ h := by
    obtain ⟨c, rest, inside, same, -⟩ := mem_valuePattern ends h
    exact ⟨c, rest, inside, same⟩
  told := firstTexts_value

theorem firstTexts_behind {p : Char → Bool} {c : Char} (inside : p c = true) (inner : Pattern)
    (rest : List Char) : firstTexts (.seq (.one p) inner) (c :: rest) = firstTexts inner rest := by
  simp only [firstTexts_eq, firstOf_seq, firstOf_one inside]
  rfl

theorem firstTexts_refused {p : Char → Bool} {c : Char} (stop : p c = false) (inner : Pattern)
    (rest : List Char) : firstTexts (.seq (.one p) inner) (c :: rest) = none := by
  rw [firstTexts_eq, firstOf_seq, firstOf_one_of_stop (by simpa using stop)]

namespace Tells

variable {inner : (Char → Bool) → Pattern → Pattern}
  {told : List Char → Option (List Char × List Char)} (tells : Tells inner told)

include tells

theorem eq_none {start : Char → Bool} {ending : Pattern} {tail text : List Char}
    (ends : Ends ending tail) (h : ∀ c rest, start c = true → text ≠ c :: rest ++ tail) :
    firstTexts (inner start ending) text = none := by
  rw [firstTexts_eq]
  refine firstOf_eq_none fun m hm => ?_
  obtain ⟨c, rest, inside, same⟩ := tells.text ends hm
  exact absurd same (h c rest inside)

theorem firstTexts_unbracketed {c : Char} {rest : List Char} (free : '\n' ∉ c :: rest) :
    firstTexts (unbracketed inner) (c :: rest) =
      if c = '(' ∨ c = '[' then none else told (c :: rest) := by
  by_cases opens : c = '(' ∨ c = '['
  · rw [if_pos opens]
    refine tells.eq_none ends_ended fun d more inside same => ?_
    cases List.cons_eq_cons.mp same with
    | intro first _ => simp_all
  · rw [if_neg opens]
    have bare := @tells.told (fun d => d ≠ '(' && d ≠ '[') _ _ ends_ended c rest
    rw [List.append_nil] at bare
    exact bare (by simpa using opens) free

theorem firstTexts_inBrackets (bracket : Bracket) {c : Char} {rest : List Char}
    (free : '\n' ∉ c :: rest) :
    firstTexts (inBrackets bracket inner) (c :: rest) =
      if c = bracket.opening then
        (cutLast bracket.closing rest).bind fun text => if text.isEmpty then none else told text
      else none := by
  by_cases opens : c = bracket.opening
  · rw [if_pos opens, inBrackets, firstTexts_behind (decide_eq_true opens)]
    cases cut : cutLast bracket.closing rest with
    | none =>
      refine tells.eq_none (ends_closing _) fun d more _ same => ?_
      rw [same, cutLast_append] at cut
      cases cut
    | some text =>
      rw [cutLast_eq_some cut] at free ⊢
      cases text with
      | nil =>
        refine tells.eq_none (ends_closing _) fun d more _ same => ?_
        simpa using congrArg List.length same
      | cons d more =>
        have line : '\n' ∉ d :: more := fun hm =>
          free (List.mem_cons_of_mem _ (List.mem_append_left _ hm))
        exact tells.told (ends_closing _) (decide_eq_true fun feed => line (by simp [feed])) line
  · rw [if_neg opens, inBrackets, firstTexts_refused (decide_eq_false opens)]

end Tells

namespace OptionLine

/-- The option that two texts say. One without a value is none. -/
def ofTexts? (wrapping : Option Bracket) : List Char × List Char → Option OptionLine
  | (value, label) =>
    if value.isEmpty then none
    else some ⟨wrapping, { value := String.ofList value, label := String.ofList label }⟩

/-- What the first of the patterns that says an option says. -/
def ofFirstMatch? (line : List Char) : Option OptionLine :=
  linePatterns.findSome? fun (wrapping, pattern) =>
    (firstTexts pattern line).bind (ofTexts? wrapping)

/-- The two ways to match a text say what the reader makes of it. -/
theorem optionTexts?_eq {text : List Char} (free : '\n' ∉ text) (wrapping : Option Bracket) :
    ((optionTexts? text).bind fun texts => some (OptionLine.mk wrapping
      { value := String.ofList texts.1, label := String.ofList texts.2 })) =
      ((partAtArrow? [] text).bind (ofTexts? wrapping)).or
        ((alone? text).bind (ofTexts? wrapping)) := by
  have line : isOneLine text = true := by simpa [isOneLine] using free
  have alone : (if (trim text).isEmpty || !isOneLine text then none
      else some (trim text, trim text)).bind (fun texts => some (OptionLine.mk wrapping
        { value := String.ofList texts.1, label := String.ofList texts.2 })) =
      (alone? text).bind (ofTexts? wrapping) := by
    cases value : trim text <;> simp [line, alone?, ofTexts?, value]
  unfold optionTexts?
  rcases partAtArrow? [] text with _ | ⟨_ | ⟨c, value⟩, label⟩
  · exact alone
  · exact alone
  · rfl

theorem findSome?_cons_or {α β : Type} (f : α → Option β) (a : α) (more : List α) :
    (a :: more).findSome? f = (f a).or (more.findSome? f) := by
  rw [List.findSome?_cons]
  cases f a <;> rfl

/-- **The reader gives what the first match says.** It takes a line just where one of the patterns
matches and says a value, and of the matches of that pattern it takes the one that a backtracking
matcher finds first. -/
theorem read?_eq_ofFirstMatch? {line : List Char} (free : '\n' ∉ line) :
    read? line = ofFirstMatch? line := by
  cases line with
  | nil => rfl
  | cons c rest =>
    have pair := fun wrapping => tells_pair.firstTexts_inBrackets wrapping free
    have value := fun wrapping => tells_value.firstTexts_inBrackets wrapping free
    have barePair := tells_pair.firstTexts_unbracketed free
    have bareValue := tells_value.firstTexts_unbracketed free
    simp only [ofFirstMatch?, linePatterns, findSome?_cons_or, List.findSome?_nil, pair, value,
      barePair, bareValue, Option.or_none]
    unfold read?
    dsimp only
    cases kind : Bracket.ofOpening? c with
    | none =>
      have bare : c ≠ '(' ∧ c ≠ '[' := by
        constructor <;> rintro rfl <;> cases kind
      simpa [Bracket.opening, bare] using optionTexts?_eq free none
    | some bracket =>
      have opens := Bracket.of_ofOpening? kind
      cases cut : cutLast bracket.closing rest with
      | none => cases bracket <;> simp [opens, cut, Bracket.opening]
      | some text =>
        rw [cutLast_eq_some cut] at free
        have line : '\n' ∉ text := fun hm =>
          free (List.mem_cons_of_mem _ (List.mem_append_left _ hm))
        have said := optionTexts?_eq line (some bracket)
        cases text with
        | nil =>
          have empty : optionTexts? [] = none := rfl
          cases bracket <;> simp [opens, cut, Bracket.opening, empty]
        | cons d more => cases bracket <;> simpa [opens, cut, Bracket.opening] using said

/-- The first arrow parts a line, and the last bracket closes it. -/
example : ofFirstMatch? "(a -> b -> c))".toList =
    some ⟨some .round, { value := "a", label := "b -> c)" }⟩ := by
  decide +kernel

end OptionLine
end Questionnaire
