import Mathlib.Data.List.DropRight
import Mathlib.Data.List.Induction
import Questionnaire.Text.Blank
import Questionnaire.Text.Lines

/-! # The lines of a text that say something

Blank lines carry no content, so texts are compared by the lines that are left without them. Joining
lines and splitting them again loses none of these, and neither does cutting line feeds off the end.
-/

namespace Questionnaire.Text

def nonBlank (lines : List (List Char)) : List (List Char) := lines.filter fun line => !allBlank line

@[simp] theorem nonBlank_nil : nonBlank [] = [] := rfl

@[simp] theorem nonBlank_append (before after : List (List Char)) :
    nonBlank (before ++ after) = nonBlank before ++ nonBlank after := List.filter_append ..

@[simp] theorem nonBlank_cons (line : List Char) (rest : List (List Char)) :
    nonBlank (line :: rest) = if allBlank line then nonBlank rest else line :: nonBlank rest := by
  cases h : allBlank line <;> simp [nonBlank, h]

/-- No line of a text holds a line feed. -/
theorem lines_free (text : List Char) : ∀ line ∈ lines text, '\n' ∉ line := by
  fun_induction lines text with
  | case1 => simp
  | case2 rest ih => simpa using ih
  | case3 rest ih => simpa using ih
  | case4 c rest feed _ none ih =>
    intro line hm
    rw [List.mem_singleton.mp hm]
    simpa using Ne.symm feed
  | case5 c rest feed _ line more some ih =>
    rw [some] at ih
    intro other hm
    rcases List.mem_cons.mp hm with rfl | hm
    · simpa [Ne.symm feed] using ih line (by simp)
    · exact ih other (by simp [hm])

/-- The characters of a line are in the text. -/
theorem mem_of_mem_lines {text : List Char} : ∀ line ∈ lines text, ∀ c ∈ line, c ∈ text := by
  fun_induction lines text with
  | case1 => simp
  | case2 rest ih =>
    intro line hl c hc
    rcases List.mem_cons.mp hl with rfl | hl
    · cases hc
    · simp [ih line hl c hc]
  | case3 rest ih =>
    intro line hl c hc
    rcases List.mem_cons.mp hl with rfl | hl
    · cases hc
    · simp [ih line hl c hc]
  | case4 d rest feed _ none ih => simp
  | case5 d rest feed _ first more some ih =>
    rw [some] at ih
    intro line hl c hc
    rcases List.mem_cons.mp hl with rfl | hl
    · rcases List.mem_cons.mp hc with rfl | hc
      · simp
      · simp [ih first (by simp) c hc]
    · simp [ih line (by simp [hl]) c hc]

structure IsLine (text : List Char) : Prop where
  feed_not_mem : '\n' ∉ text
  return_not_mem : '\r' ∉ text

instance (text : List Char) : Decidable (IsLine text) :=
  decidable_of_iff ('\n' ∉ text ∧ '\r' ∉ text) ⟨fun h => ⟨h.1, h.2⟩, fun h => ⟨h.1, h.2⟩⟩

/-- Without carriage returns, every line of a text is one wherever it is put. -/
theorem isLine_of_mem_lines {text : List Char} (plain : '\r' ∉ text) :
    ∀ line ∈ lines text, IsLine line := fun line hl =>
  ⟨lines_free text line hl, fun hr => plain (mem_of_mem_lines line hl _ hr)⟩

/-- A line that has lost the carriage return which belongs to its ending. -/
def dropReturn (line : List Char) : List Char :=
  if line.getLast? = some '\r' then line.dropLast else line

theorem dropReturn_eq_self {line : List Char} (h : line.getLast? ≠ some '\r') :
    dropReturn line = line := if_neg h

theorem dropReturn_cons {c : Char} {line : List Char} (h : c = '\r' → line ≠ []) :
    dropReturn (c :: line) = c :: dropReturn line := by
  cases line with
  | nil =>
    have ret : c ≠ '\r' := fun he => h he rfl
    rw [dropReturn_eq_self (by simpa using ret)]
    rfl
  | cons d line =>
    simp only [dropReturn, List.getLast?_cons_cons, List.dropLast_cons_cons]
    split <;> rfl

/-- A line may hold carriage returns: only one directly before the line feed is lost. -/
theorem lines_append_feed {line : List Char} (free : '\n' ∉ line) (rest : List Char) :
    lines (line ++ '\n' :: rest) = dropReturn line :: lines rest := by
  induction line with
  | nil => simp [lines, dropReturn]
  | cons c line ih =>
    rw [List.mem_cons, not_or] at free
    obtain ⟨feed, free⟩ := free
    by_cases ending : c = '\r' ∧ line = []
    · obtain ⟨rfl, rfl⟩ := ending
      simp [lines, dropReturn]
    · have kept : dropReturn (c :: line) = c :: dropReturn line :=
        dropReturn_cons fun ret none => ending ⟨ret, none⟩
      have apart : ∀ back, c = '\r' → line ++ '\n' :: rest = '\n' :: back → False := by
        intro back ret he
        cases line with
        | nil => exact ending ⟨ret, rfl⟩
        | cons d line => exact free (by simp [(List.cons.inj he).1])
      rw [List.cons_append, lines.eq_4 c _ (Ne.symm feed) apart, ih free, kept]

theorem lines_of_not_mem {line : List Char} (free : '\n' ∉ line) (occupied : line ≠ []) :
    lines line = [line] := by
  induction line with
  | nil => exact absurd rfl occupied
  | cons c line ih =>
    rw [List.mem_cons, not_or] at free
    obtain ⟨feed, free⟩ := free
    have apart : ∀ back, c = '\r' → line = '\n' :: back → False := by
      rintro back - rfl
      exact free (by simp)
    rw [lines.eq_4 c line (Ne.symm feed) apart]
    cases line with
    | nil => rfl
    | cons d rest => rw [ih free (by simp)]

/-- The lines of a text that ends with a line feed come first, whatever stands behind it. -/
theorem lines_append (front rest : List Char) :
    lines (front ++ '\n' :: rest) = lines (front ++ ['\n']) ++ lines rest := by
  induction size : front.length using Nat.strong_induction_on generalizing front with
  | _ size ih =>
    subst size
    by_cases feed : '\n' ∈ front
    · obtain ⟨line, more, rfl, free⟩ := List.eq_append_cons_of_mem feed
      have shorter : more.length < (line ++ '\n' :: more).length := by simp; omega
      have below := ih more.length shorter more rfl
      rw [List.append_assoc, List.append_assoc, List.cons_append, List.cons_append,
        lines_append_feed free, lines_append_feed free, below, List.cons_append]
    · rw [lines_append_feed feed, lines_append_feed feed]
      rfl

/-- The first of joined lines is read off first, whatever stands below. -/
theorem lines_joinLines_cons {line : List Char} (free : '\n' ∉ line) (occupied : line ≠ [])
    (ret : line.getLast? ≠ some '\r') (below : List (List Char)) :
    lines (joinLines (line :: below)) = line :: lines (joinLines below) := by
  cases below with
  | nil => exact lines_of_not_mem free occupied
  | cons next below =>
    rw [joinLines.eq_3 _ _ (by simp), lines_append_feed free, dropReturn_eq_self ret]

/-- A line and a line feed at the start of a text are read off first. -/
theorem lines_line_append {line : List Char} (h : IsLine line) (rest : List Char) :
    lines (line ++ '\n' :: rest) = line :: lines rest := by
  have ret : line.getLast? ≠ some '\r' := fun he => h.return_not_mem (List.mem_of_getLast? he)
  rw [lines_append_feed h.feed_not_mem, dropReturn_eq_self ret]

theorem lines_line {line : List Char} (h : IsLine line) (occupied : line ≠ []) :
    lines line = [line] := lines_of_not_mem h.feed_not_mem occupied

/-- Joined lines are read off again, as long as some line stands behind them. -/
theorem lines_joinLines_append {front tail : List (List Char)} (h : ∀ line ∈ front, IsLine line)
    (behind : tail ≠ []) : lines (joinLines (front ++ tail)) = front ++ lines (joinLines tail) := by
  induction front with
  | nil => rfl
  | cons line front ih =>
    obtain ⟨hl, hf⟩ := List.forall_mem_cons.mp h
    have more : front ++ tail ≠ [] := by simp [behind]
    rw [List.cons_append, joinLines.eq_3 _ _ more, lines_line_append hl, ih hf, List.cons_append]

theorem joinLines_eq_intercalate (lines : List (List Char)) :
    joinLines lines = ['\n'].intercalate lines := by
  fun_induction joinLines lines with
  | case1 => rfl
  | case2 line => simp
  | case3 line more ne ih => rw [ih, List.intercalate_cons_of_ne_nil ne]; simp

/-- Joined lines split into the same lines, but that no line at all splits into a blank one. -/
theorem nonBlank_splitOn_joinLines {lines : List (List Char)} (free : ∀ line ∈ lines, '\n' ∉ line) :
    nonBlank ((joinLines lines).splitOn '\n') = nonBlank lines := by
  cases lines with
  | nil => rfl
  | cons line more =>
    rw [joinLines_eq_intercalate, List.splitOn_intercalate '\n' free (by simp)]

theorem dropEndWhile_append_singleton (p : Char → Bool) (text : List Char) (c : Char) :
    dropEndWhile p (text ++ [c]) = if p c then dropEndWhile p text else text ++ [c] := by
  simp only [dropEndWhile, List.reverse_append, List.reverse_singleton, List.singleton_append,
    List.dropWhile_cons]
  split <;> simp

/-- Line feeds at the end of a text add only empty lines. -/
theorem nonBlank_splitOn_dropEnd (text : List Char) :
    nonBlank ((dropEndWhile (· = '\n') text).splitOn '\n') = nonBlank (text.splitOn '\n') := by
  induction text using List.reverseRecOn with
  | nil => rfl
  | append_singleton text c ih =>
    rw [dropEndWhile_append_singleton]
    split
    · rename_i feed
      rw [ih, of_decide_eq_true feed, List.splitOn_append_cons_self]
      simp [allBlank]
    · rfl

/-! ## Joined lines -/

theorem joinLines_cons {more : List (List Char)} (h : more ≠ []) (line : List Char) :
    joinLines (line :: more) = line ++ '\n' :: joinLines more := joinLines.eq_3 line more h

theorem joinLines_append {before after : List (List Char)} (hb : before ≠ []) (ha : after ≠ []) :
    joinLines (before ++ after) = joinLines before ++ '\n' :: joinLines after := by
  induction before with
  | nil => exact absurd rfl hb
  | cons line before ih =>
    by_cases last : before = []
    · rw [last, List.singleton_append, joinLines_cons ha, joinLines]
    · rw [List.cons_append, joinLines_cons (by simp [last]), ih last, joinLines_cons last,
        List.append_assoc, List.cons_append]

/-- Texts of some lines with a blank line between each two are all these lines, with an empty one
between each two texts. -/
theorem intercalate_joinLines {texts : List (List (List Char))}
    (occupied : ∀ lines ∈ texts, lines ≠ []) :
    ['\n', '\n'].intercalate (texts.map joinLines) = joinLines ([[]].intercalate texts) := by
  induction texts with
  | nil => rfl
  | cons lines more ih =>
    obtain ⟨hl, hm⟩ := List.forall_mem_cons.mp occupied
    by_cases last : more = []
    · simp [last]
    · have below : [[]].intercalate more ≠ [] := by
        cases more with
        | nil => exact absurd rfl last
        | cons next more =>
          have first : next ≠ [] := hm next (by simp)
          by_cases alone : more = []
          · simpa [alone] using first
          · simp [List.intercalate_cons_of_ne_nil alone, first]
      rw [List.map_cons, List.intercalate_cons_of_ne_nil (by simpa using last),
        List.intercalate_cons_of_ne_nil last, ih hm, List.append_assoc lines,
        joinLines_append hl (by simp), List.singleton_append, joinLines_cons below]
      simp

/-- Empty lines at the end of joined lines are line feeds there. -/
theorem dropEndWhile_joinLines_rdropWhile (lines : List (List Char)) :
    dropEndWhile (· = '\n') (joinLines (lines.rdropWhile List.isEmpty)) =
      dropEndWhile (· = '\n') (joinLines lines) := by
  induction lines using List.reverseRecOn with
  | nil => rfl
  | append_singleton lines line ih =>
    cases line with
    | nil =>
      rw [List.rdropWhile_concat_pos _ _ _ rfl, ih]
      by_cases alone : lines = []
      · simp [alone, joinLines]
      · rw [joinLines_append alone (by simp), joinLines, dropEndWhile_append_singleton,
          if_pos (by decide)]
    | cons c line => rw [List.rdropWhile_concat_neg _ _ _ (by simp)]

/-- Joined lines do not end with a line feed, unless the last of them is empty. -/
theorem dropEndWhile_joinLines {lines : List (List Char)} (free : ∀ line ∈ lines, '\n' ∉ line)
    (occupied : ∀ line ∈ lines.getLast?, line ≠ []) :
    dropEndWhile (· = '\n') (joinLines lines) = joinLines lines := by
  rcases List.eq_nil_or_concat lines with rfl | ⟨above, line, rfl⟩
  · rfl
  rw [List.concat_eq_append] at free occupied ⊢
  obtain ⟨front, c, rfl⟩ := (List.eq_nil_or_concat line).resolve_left (occupied line (by simp))
  have last : '\n' ∉ front ++ [c] := free _ (by simp)
  have ending : ∃ before, joinLines (above ++ [front ++ [c]]) = before ++ [c] := by
    by_cases alone : above = []
    · exact ⟨front, by simp [alone, joinLines]⟩
    · refine ⟨joinLines above ++ '\n' :: front, ?_⟩
      rw [joinLines_append alone (by simp), joinLines]
      simp
  obtain ⟨before, he⟩ := ending
  have feed : c ≠ '\n' := by
    rintro rfl
    simp at last
  rw [List.concat_eq_append, he, dropEndWhile_append_singleton, if_neg (by simpa using feed)]

/-- Joined lines are read off again, unless the last of them is empty. -/
theorem lines_joinLines {all : List (List Char)} (isLine : ∀ line ∈ all, IsLine line)
    (occupied : ∀ line ∈ all.getLast?, line ≠ []) : lines (joinLines all) = all := by
  rcases List.eq_nil_or_concat all with rfl | ⟨above, line, rfl⟩
  · rfl
  rw [List.concat_eq_append] at isLine occupied ⊢
  rw [lines_joinLines_append (fun other hm => isLine other (by simp [hm])) (by simp), joinLines,
    lines_line (isLine line (by simp)) (occupied line (by simp))]

end Questionnaire.Text
