import Mathlib.Data.List.TakeWhile
import Questionnaire.Text.Blank
import Questionnaire.Text.Word

/-! # Runs of characters

A reader takes a run of characters of one class as far as it goes. It finds the run that was written
wherever the next character is of no such class, and blanks and word characters have none in common.
-/

namespace Questionnaire.Text

section

variable {α : Type} {p : α → Bool} {run rest : List α}

theorem not_mem_run {c : α} (inside : ∀ c ∈ run, p c = true) (off : p c = false) : c ∉ run := by
  intro hm
  rw [inside c hm] at off
  cases off

theorem takeWhile_run (inside : ∀ c ∈ run, p c = true) (stop : ∀ c ∈ rest.head?, p c = false) :
    (run ++ rest).takeWhile p = run := by
  rw [List.takeWhile_append_of_pos inside]
  cases rest with
  | nil => simp
  | cons c rest => simp [stop c rfl]

theorem dropWhile_run (inside : ∀ c ∈ run, p c = true) (stop : ∀ c ∈ rest.head?, p c = false) :
    (run ++ rest).dropWhile p = rest := by
  rw [List.dropWhile_append_of_pos inside]
  cases rest with
  | nil => rfl
  | cons c rest => simp [stop c rfl]

theorem stop_append {front back : List α} (first : ∀ c ∈ front.head?, p c = false)
    (second : ∀ c ∈ back.head?, p c = false) : ∀ c ∈ (front ++ back).head?, p c = false := by
  cases front with
  | nil => exact second
  | cons d front => exact first

/-- Every list is a run, possibly an empty one, and a rest that does not go on with it. -/
theorem exists_run (p : α → Bool) (text : List α) :
    ∃ run rest, text = run ++ rest ∧ (∀ c ∈ run, p c = true) ∧ ∀ c ∈ rest.head?, p c = false := by
  refine ⟨text.takeWhile p, text.dropWhile p, List.takeWhile_append_dropWhile.symm, ?_, ?_⟩
  · intro c hm
    exact List.mem_takeWhile_imp hm
  · intro c hm
    have := List.head?_dropWhile_not p text
    rw [Option.mem_def.mp hm] at this
    exact this

end

section

variable {p : Char → Bool}

/-- A text is what is left of it and the characters dropped from its end. -/
theorem exists_dropEndWhile (p : Char → Bool) (text : List Char) :
    ∃ run, text = dropEndWhile p text ++ run ∧ (∀ c ∈ run, p c = true) ∧
      ∀ c ∈ (dropEndWhile p text).getLast?, p c = false := by
  obtain ⟨run, rest, whole, inside, stop⟩ := exists_run p text.reverse
  have left : dropEndWhile p text = rest.reverse := by
    rw [dropEndWhile, whole, dropWhile_run inside stop]
  refine ⟨run.reverse, ?_, by simpa using inside, ?_⟩
  · rw [left, ← List.reverse_append, ← whole, List.reverse_reverse]
  · rw [left, List.getLast?_reverse]
    exact stop

theorem dropEndWhile_eq_self {text : List Char} (last : ∀ c ∈ text.getLast?, p c = false) :
    dropEndWhile p text = text := by
  have ending : text.reverse.dropWhile p = text.reverse := by
    apply @dropWhile_run _ p [] text.reverse (by simp)
    rwa [List.head?_reverse]
  rw [dropEndWhile, ending, List.reverse_reverse]

end

/-- A text is all the blanks at its start, what trimming leaves of it, and blanks at its end. -/
theorem exists_trim (text : List Char) :
    ∃ before after, text = before ++ trim text ++ after ∧
      (∀ c ∈ before, isBlank c = true) ∧ (∀ c ∈ after, isBlank c = true) ∧
      (∀ c ∈ (trim text ++ after).head?, isBlank c = false) ∧
      ∀ c ∈ (trim text).getLast?, isBlank c = false := by
  obtain ⟨before, start, hb, blank, stop⟩ := exists_run isBlank text
  obtain ⟨run, rest, hs, blank', stop'⟩ := exists_run isBlank start.reverse
  have ends : start = rest.reverse ++ run.reverse := by simpa using congrArg List.reverse hs
  have trimmed : trim text = rest.reverse := by
    rw [trim, trimStart, hb, dropWhile_run blank stop, trimEnd, dropEndWhile, hs,
      dropWhile_run blank' stop']
  refine ⟨before, run.reverse, ?_, blank, ?_, ?_, ?_⟩
  · rw [trimmed, hb, ends, List.append_assoc]
  · simpa using blank'
  · rwa [trimmed, ← ends]
  · rw [trimmed, List.getLast?_reverse]
    exact stop'

/-- A text that neither starts nor ends with a blank stays as it is. -/
theorem trim_eq_self {text : List Char} (first : ∀ c ∈ text.head?, isBlank c = false)
    (last : ∀ c ∈ text.getLast?, isBlank c = false) : trim text = text := by
  have start : trimStart text = text := @dropWhile_run _ isBlank [] text (by simp) first
  rw [trim, start, trimEnd, dropEndWhile_eq_self last]

theorem trim_trim (text : List Char) : trim (trim text) = trim text := by
  obtain ⟨before, after, -, -, -, first, last⟩ := exists_trim text
  refine trim_eq_self (fun c hc => first c ?_) last
  rw [Option.mem_def] at hc
  rw [Option.mem_def, List.head?_append, hc, Option.some_or]

theorem trimEnd_append {after : List Char} (blank : ∀ c ∈ after, isBlank c = true)
    (text : List Char) : trimEnd (text ++ after) = trimEnd text := by
  have blank' : ∀ c ∈ after.reverse, isBlank c = true := by simpa using blank
  rw [trimEnd, dropEndWhile, List.reverse_append, List.dropWhile_append_of_pos blank']
  rfl

/-- Blanks in front of a text are trimmed off. -/
theorem trim_append_left {before : List Char} (blank : ∀ c ∈ before, isBlank c = true)
    (text : List Char) : trim (before ++ text) = trim text := by
  rw [trim, trimStart, List.dropWhile_append_of_pos blank]
  rfl

/-- Blanks behind a text are trimmed off. -/
theorem trim_append_right {after : List Char} (blank : ∀ c ∈ after, isBlank c = true)
    (text : List Char) : trim (text ++ after) = trim text := by
  obtain ⟨run, rest, rfl, blank', stop⟩ := exists_run isBlank text
  rw [List.append_assoc, trim_append_left blank', trim_append_left blank']
  cases rest with
  | nil => simpa using trim_append_left blank []
  | cons c rest =>
    have start : ∀ back, trimStart (c :: rest ++ back) = c :: rest ++ back := fun back =>
      @dropWhile_run _ isBlank [] (c :: rest ++ back) (by simp) stop
    have alone : trimStart (c :: rest) = c :: rest := by simpa using start []
    rw [trim, start, trimEnd_append blank, trim, alone]

/-- Trimming leaves a trimmed text just where that text stands between blanks. -/
theorem trim_eq_iff {text core : List Char} (trimmed : trim core = core) :
    trim text = core ↔ ∃ before after, text = before ++ core ++ after ∧
      (∀ c ∈ before, isBlank c = true) ∧ ∀ c ∈ after, isBlank c = true := by
  constructor
  · rintro rfl
    obtain ⟨before, after, whole, blank, blank', -⟩ := exists_trim text
    exact ⟨before, after, whole, blank, blank'⟩
  · rintro ⟨before, after, rfl, blank, blank'⟩
    rw [trim_append_right blank', trim_append_left blank, trimmed]

/-- What is trimmed has no blanks at its end. -/
theorem eq_nil_of_trim_append {text gap : List Char} (trimmed : trim (text ++ gap) = text ++ gap)
    (blank : ∀ c ∈ gap, isBlank c = true) : gap = [] := by
  obtain ⟨before, after, whole, -⟩ := exists_trim text
  rw [trim_append_right blank] at trimmed
  rw [trimmed] at whole
  have long := congrArg List.length whole
  simp only [List.length_append] at long
  exact List.eq_nil_of_length_eq_zero (by omega)

theorem trimStart_eq_nil_iff {text : List Char} :
    trimStart text = [] ↔ ∀ c ∈ text, isBlank c = true := List.dropWhile_eq_nil_iff

theorem trim_trimStart (text : List Char) : trim (trimStart text) = trim text := by
  obtain ⟨run, rest, rfl, blank, stop⟩ := exists_run isBlank text
  rw [trimStart, dropWhile_run blank stop, trim_append_left blank]

theorem trim_space_cons (text : List Char) : trim (' ' :: text) = trim text :=
  @trim_append_left [' '] (by simp [isBlank]) text

theorem trim_append_space (text : List Char) : trim (text ++ [' ']) = trim text :=
  trim_append_right (by simp [isBlank]) text

theorem mem_of_mem_trim {text : List Char} {c : Char} (hm : c ∈ trim text) : c ∈ text := by
  obtain ⟨before, after, whole, -⟩ := exists_trim text
  rw [whole]
  simp [hm]

/-- Trimming takes off blanks only. -/
theorem mem_trim {text : List Char} {c : Char} (hm : c ∈ text) (occupied : isBlank c = false) :
    c ∈ trim text := by
  obtain ⟨before, after, whole, blank, blank', -⟩ := exists_trim text
  rw [whole, List.mem_append, List.mem_append] at hm
  rcases hm with (hm | hm) | hm
  · exact absurd hm (not_mem_run blank occupied)
  · exact hm
  · exact absurd hm (not_mem_run blank' occupied)

theorem count_trim {c : Char} (occupied : isBlank c = false) (text : List Char) :
    (trim text).count c = text.count c := by
  obtain ⟨before, after, whole, blank, blank', -⟩ := exists_trim text
  have off : before.count c = 0 := List.count_eq_zero.mpr (not_mem_run blank occupied)
  have off' : after.count c = 0 := List.count_eq_zero.mpr (not_mem_run blank' occupied)
  have total := congrArg (List.count c) whole
  rw [List.count_append, List.count_append, off, off'] at total
  omega

theorem trim_eq_nil_iff {text : List Char} :
    trim text = [] ↔ ∀ c ∈ text, isBlank c = true := by
  constructor
  · intro empty c hm
    by_contra occupied
    have inside := mem_trim hm (by simpa using occupied)
    rw [empty] at inside
    cases inside
  · intro blank
    have whole := trim_append_left blank []
    rwa [List.append_nil] at whole

theorem trim_ne_nil_iff {text : List Char} : trim text ≠ [] ↔ ∃ c ∈ text, isBlank c = false := by
  rw [Ne, trim_eq_nil_iff]
  simp

def blankCodes : List Nat :=
  List.range' 9 5 ++ List.range' 0x2000 11 ++
    [0x20, 0x85, 0xA0, 0x1680, 0x2028, 0x2029, 0x202F, 0x205F, 0x3000]

theorem toNat_mem_blankCodes {c : Char} (h : isBlank c = true) : c.toNat ∈ blankCodes := by
  simp only [isBlank, Bool.or_eq_true, Bool.and_eq_true, decide_eq_true_eq, beq_iff_eq] at h
  simp only [blankCodes, List.mem_append, List.mem_range'_1, List.mem_cons, List.not_mem_nil,
    or_false]
  omega

/-- No word character is blank. -/
theorem isBlank_of_isWord {c : Char} (h : isWord c = true) : isBlank c = false := by
  have apart : ∀ code ∈ blankCodes, isWord (Char.ofNat code) = false := by decide +kernel
  by_contra blank
  have no := apart c.toNat (toNat_mem_blankCodes (by simpa using blank))
  rw [Char.ofNat_toNat, h] at no
  cases no

theorem isWord_of_isBlank {c : Char} (h : isBlank c = true) : isWord c = false := by
  by_contra word
  rw [isBlank_of_isWord (by simpa using word)] at h
  cases h

end Questionnaire.Text
