import Questionnaire.Proofs.Document.Gathering
import Questionnaire.Proofs.Document.Outline
import Questionnaire.Proofs.Text.Runs

/-! # The places of passages

A fence begins or ends at every line that starts with three marks. Outside fences the longest runs of
lines of text are paragraphs, and each heading is a passage of its own; a fence is one from its first
line to its last. No two passages share a line, and gathering leaves out nothing but blank lines
between them, so it finds all of them.
-/

namespace Questionnaire
open Text

/-! ## Passages and their places -/

/-- The passages of some lines: how many lines are above a passage, and the text that it stands for.
A line is outside fences if an even number of lines above it start with three marks. -/
inductive PassageAt (all : List (List Char)) : Nat → Passage → String → Prop
  /-- A longest run of lines of text. -/
  | paragraph {before run after : List (List Char)} (whole : all = before ++ (run ++ after))
      (outside : Even (before.countP isFence)) (occupied : run ≠ [])
      (prose : ∀ line ∈ run, isProse line = true)
      (above : ∀ line ∈ before.getLast?, isProse line = false)
      (below : ∀ line ∈ after.head?, isProse line = false) :
      PassageAt all before.length (.paragraph run) (String.ofList (joinLines run))
  | heading {before after : List (List Char)} {line title : List Char}
      (whole : all = before ++ line :: after) (outside : Even (before.countP isFence))
      (read : headingTitle? line = some title) :
      PassageAt all before.length (.heading title line) (String.ofList line)
  /-- A fence with its first and its last line. -/
  | closedFence {before inside after : List (List Char)} {first last : List Char}
      (whole : all = before ++ (first :: inside ++ last :: after))
      (outside : Even (before.countP isFence)) (opens : isFence first = true)
      (plain : ∀ line ∈ inside, isFence line = false) (closes : isFence last = true) :
      PassageAt all before.length (.fenced (first :: inside ++ [last]))
        (String.ofList (joinLines (first :: inside ++ [last])))
  /-- A fence up to the end. The empty lines there are not part of its text. -/
  | openFence {before inside : List (List Char)} {first : List Char}
      (whole : all = before ++ first :: inside)
      (outside : Even (before.countP isFence)) (opens : isFence first = true)
      (plain : ∀ line ∈ inside, isFence line = false) :
      PassageAt all before.length (.fenced (first :: inside))
        (String.ofList (joinLines ((first :: inside).rdropWhile List.isEmpty)))

def firstPassage? : List (List Char) → Option Passage
  | [] => none
  | line :: rest =>
    if isFence line then
      some (.fenced (line :: rest.takeWhile (!isFence ·) ++ (rest.dropWhile (!isFence ·)).take 1))
    else
      match headingTitle? line with
      | some title => some (.heading title line)
      | none => if allBlank line then none else some (.paragraph ((line :: rest).takeWhile isProse))

theorem firstPassage?_of_prose {line : List Char} (h : isProse line = true)
    (rest : List (List Char)) :
    firstPassage? (line :: rest) = some (.paragraph ((line :: rest).takeWhile isProse)) := by
  obtain ⟨marks, read, blank⟩ := isProse_iff.mp h
  simp [firstPassage?, marks, read, blank]

theorem firstPassage?_of_allBlank {line : List Char} (h : allBlank line = true)
    (rest : List (List Char)) : firstPassage? (line :: rest) = none := by
  simp [firstPassage?, isFence_of_allBlank h, headingTitle?_of_allBlank h, h]

section

variable {all : List (List Char)} {n m : Nat} {passage other : Passage} {text text' : String}

/-- What stands at a place depends on the lines from there on. -/
theorem PassageAt.firstPassage?_drop (h : PassageAt all n passage text) :
    firstPassage? (all.drop n) = some passage := by
  cases h with
  | @paragraph before run after whole outside occupied prose above below =>
    obtain ⟨line, more, rfl⟩ := List.exists_cons_of_ne_nil occupied
    rw [whole, List.drop_left, List.cons_append, firstPassage?_of_prose (prose line (by simp)),
      ← List.cons_append, takeWhile_run prose below]
  | heading whole outside read =>
    rw [whole, List.drop_left]
    simp [firstPassage?, isFence_of_headingTitle? read, read]
  | @closedFence before inside after first last whole outside opens plain closes =>
    have inner : ∀ line ∈ inside, (!isFence line) = true := by simpa using plain
    rw [whole, List.drop_left, List.cons_append, firstPassage?, if_pos opens,
      List.takeWhile_append_of_pos inner, List.dropWhile_append_of_pos inner]
    simp [closes]
  | @openFence before inside first whole outside opens plain =>
    have inner : ∀ line ∈ inside, (!isFence line) = true := by simpa using plain
    rw [whole, List.drop_left, firstPassage?, if_pos opens,
      List.takeWhile_eq_self_iff.mpr inner, List.dropWhile_eq_nil_iff.mpr inner]
    simp

/-- A passage has lines, and they stand at its place. -/
theorem PassageAt.parts (h : PassageAt all n passage text) :
    passage.content ≠ [] ∧ ∃ before after,
      before.length = n ∧ all = before ++ (passage.content ++ after) := by
  cases h with
  | paragraph whole _ occupied => exact ⟨occupied, _, _, rfl, whole⟩
  | @heading before after line title whole =>
    refine ⟨by simp [Passage.content], before, after, rfl, ?_⟩
    simpa [Passage.content] using whole
  | @closedFence before inside after first last whole =>
    refine ⟨by simp [Passage.content], before, after, rfl, ?_⟩
    simpa [Passage.content] using whole
  | @openFence before inside first whole =>
    refine ⟨by simp [Passage.content], before, [], rfl, ?_⟩
    simpa [Passage.content] using whole

/-- A passage begins outside fences. -/
theorem PassageAt.outside (h : PassageAt all n passage text) :
    Even ((all.take n).countP isFence) := by
  cases h with
  | paragraph whole outside => rwa [whole, List.take_left]
  | heading whole outside => rwa [whole, List.take_left]
  | closedFence whole outside => rwa [whole, List.take_left]
  | openFence whole outside => rwa [whole, List.take_left]

/-- No line of text stands right above a paragraph. -/
theorem PassageAt.above {run : List (List Char)} (h : PassageAt all n (.paragraph run) text) :
    ∀ line ∈ (all.take n).getLast?, isProse line = false := by
  cases h with
  | paragraph whole _ _ _ above => rwa [whole, List.take_left]

/-- Behind the first line of a fence it is open, as long as no other line of a fence has come. -/
theorem not_even_behind_fence {before inside : List (List Char)} {first : List Char}
    (outside : Even (before.countP isFence)) (opens : isFence first = true)
    (plain : ∀ line ∈ inside, isFence line = false) :
    ¬ Even ((before ++ first :: inside).countP isFence) := by
  have none : inside.countP isFence = 0 :=
    List.countP_eq_zero.mpr fun line hm => by simp [plain line hm]
  rw [List.countP_append, List.countP_cons_of_pos opens, none, Nat.zero_add, Nat.even_add_one]
  exact fun not => not outside

/-- No passage begins on the lines of another behind its first one. -/
theorem PassageAt.not_inside (h : PassageAt all n passage text) {k : Nat} (pos : 0 < k)
    (inside : k < passage.content.length) : ¬ PassageAt all (n + k) other text' := by
  intro h'
  have start := h'.firstPassage?_drop
  have outside' := h'.outside
  obtain ⟨j, rfl⟩ : ∃ j, k = j + 1 := ⟨k - 1, by omega⟩
  cases h with
  | @paragraph before run after whole outside occupied prose above below =>
    have inside : j + 1 < run.length := inside
    -- the line before the other place and the line there are both of text
    have here : isProse run[j + 1] = true := prose _ (List.getElem_mem inside)
    have last : isProse run[j] = true := prose _ (List.getElem_mem (by omega))
    rw [whole, List.drop_length_add_append, List.drop_append_of_le_length (by omega),
      List.drop_eq_getElem_cons inside, List.cons_append, firstPassage?_of_prose here] at start
    cases start
    have refused := h'.above
    rw [whole, List.take_length_add_append, List.take_append_of_le_length (by omega),
      List.take_succ_eq_append_getElem (by omega), ← List.append_assoc,
      List.getLast?_concat] at refused
    rw [refused _ rfl] at last
    cases last
  | heading => simp [Passage.content] at inside
  | @closedFence before lines after first last whole outside opens plain closes =>
    have short : j < lines.length + 1 := by simpa [Passage.content] using inside
    rw [whole, List.take_length_add_append, List.cons_append, List.take_succ_cons,
      List.take_append_of_le_length (by omega)] at outside'
    exact not_even_behind_fence outside opens
      (fun line hm => plain line (List.mem_of_mem_take hm)) outside'
  | @openFence before lines first whole outside opens plain =>
    rw [whole, List.take_length_add_append, List.take_succ_cons] at outside'
    exact not_even_behind_fence outside opens
      (fun line hm => plain line (List.mem_of_mem_take hm)) outside'

/-- The text of a passage is the one that gathering gives it. -/
theorem PassageAt.text_eq (free : ∀ line ∈ all, '\n' ∉ line) (h : PassageAt all n passage text) :
    passage.text = text := by
  cases h with
  | paragraph => rfl
  | heading => rfl
  | @closedFence before inside after first last whole outside opens plain closes =>
    have inner : ∀ line ∈ first :: inside ++ [last], '\n' ∉ line := by
      intro line hm
      refine free line ?_
      rw [whole]
      simp only [List.mem_append, List.mem_cons, List.not_mem_nil, or_false] at hm ⊢
      tauto
    have occupied : ∀ line ∈ (first :: inside ++ [last]).getLast?, line ≠ [] := by
      rw [List.getLast?_concat]
      simpa using ne_nil_of_isFence closes
    rw [Passage.text, dropEndWhile_joinLines inner occupied]
  | @openFence before inside first whole outside opens plain =>
    have kept : (first :: inside).rdropWhile List.isEmpty <+: first :: inside :=
      List.rdropWhile_prefix ..
    have inner : ∀ line ∈ (first :: inside).rdropWhile List.isEmpty, '\n' ∉ line := by
      intro line hm
      refine free line ?_
      rw [whole]
      exact List.mem_append_right _ (kept.subset hm)
    have occupied : ∀ line ∈ ((first :: inside).rdropWhile List.isEmpty).getLast?, line ≠ [] := by
      intro line hm
      obtain ⟨some, rfl⟩ := List.mem_getLast?_eq_getLast hm
      simpa using List.rdropWhile_last_not List.isEmpty _ some
    rw [Passage.text, ← dropEndWhile_joinLines_rdropWhile, dropEndWhile_joinLines inner occupied]

end

/-! ## All passages in their order -/

structure Placed where
  start : Nat
  passage : Passage

/-- Passages that take up all lines from a place on, but for blank lines between them. -/
inductive Tiling (all : List (List Char)) : Nat → List Placed → Prop
  | done {n : Nat} (ended : all.length ≤ n) : Tiling all n []
  | gap {before after : List (List Char)} {line : List Char} {placed : List Placed}
      (whole : all = before ++ line :: after) (blank : allBlank line = true)
      (more : Tiling all (before.length + 1) placed) : Tiling all before.length placed
  | passage {n : Nat} {passage : Passage} {text : String} {placed : List Placed}
      (here : PassageAt all n passage text)
      (more : Tiling all (n + passage.content.length) placed) :
      Tiling all n (⟨n, passage⟩ :: placed)

namespace Tiling

variable {all : List (List Char)} {n : Nat} {placed : List Placed}

theorem le_start (h : Tiling all n placed) : ∀ entry ∈ placed, n ≤ entry.start := by
  induction h with
  | done => simp
  | gap whole blank more ih =>
    intro entry hm
    have := ih entry hm
    omega
  | passage here more ih =>
    intro entry hm
    rcases List.mem_cons.mp hm with rfl | hm
    · exact Nat.le_refl _
    · have := ih entry hm
      omega

/-- Passages stand in the order of their places. -/
theorem ordered (h : Tiling all n placed) :
    placed.Pairwise fun one other => one.start < other.start := by
  induction h with
  | done => exact .nil
  | gap whole blank more ih => exact ih
  | @passage n passage text placed here more ih =>
    refine .cons (fun entry hm => ?_) ih
    have below := more.le_start entry hm
    have occupied := List.length_pos_iff.mpr here.parts.1
    show n < entry.start
    omega

theorem passageAt (h : Tiling all n placed) :
    ∀ entry ∈ placed, ∃ text, PassageAt all entry.start entry.passage text := by
  induction h with
  | done => simp
  | gap whole blank more ih => exact ih
  | @passage n passage text placed here more ih =>
    intro entry hm
    rcases List.mem_cons.mp hm with rfl | hm
    · exact ⟨text, here⟩
    · exact ih entry hm

/-- No passage is left out. -/
theorem mem_of_passageAt (h : Tiling all n placed) {m : Nat} {passage : Passage} {text : String}
    (from_n : n ≤ m) (h' : PassageAt all m passage text) : ⟨m, passage⟩ ∈ placed := by
  obtain ⟨occupied, before', after', rfl, whole'⟩ := h'.parts
  induction h with
  | @done n ended =>
    have lines := congrArg List.length whole'
    have pos := List.length_pos_iff.mpr occupied
    simp only [List.length_append] at lines
    omega
  | @gap before after line placed whole blank more ih =>
    refine ih ?_
    have elsewhere : before.length ≠ before'.length := by
      intro same
      have start := h'.firstPassage?_drop
      rw [← same, whole, List.drop_left, firstPassage?_of_allBlank blank] at start
      cases start
    omega
  | @passage n other text placed here more ih =>
    rcases Nat.lt_trichotomy before'.length (n + other.content.length) with inside | same | behind
    · rcases Nat.eq_or_lt_of_le from_n with rfl | later
      · have same := here.firstPassage?_drop.symm.trans h'.firstPassage?_drop
        cases same
        exact List.mem_cons_self
      · obtain ⟨k, he⟩ := Nat.exists_eq_add_of_lt later
        rw [he, Nat.add_assoc] at h'
        exact absurd h' (here.not_inside (by omega) (by omega))
    · exact List.mem_cons_of_mem _ (ih (by omega))
    · exact List.mem_cons_of_mem _ (ih (by omega))

end Tiling

/-- Behind lines that leave no fence open, some passage comes first and is gathered first. -/
structure Begins (before : List (List Char)) (passage : Passage) (after : List (List Char)) :
    Prop where
  placed : ∃ text, PassageAt (before ++ (passage.content ++ after)) before.length passage text
  gathered : Passage.gather false [] (passage.content ++ after) =
    passage :: Passage.gather false [] after
  outside : after ≠ [] → Even ((before ++ passage.content).countP isFence)
  apart : ∀ last ∈ passage.content.getLast?, isProse last = true →
    ∀ next ∈ after.head?, isProse next = false

namespace Begins

variable {before : List (List Char)} (outside : Even (before.countP isFence))

include outside

theorem openFence {first : List Char} {inside : List (List Char)} (opens : isFence first = true)
    (plain : ∀ line ∈ inside, isFence line = false) :
    Begins before (.fenced (first :: inside)) [] where
  placed := ⟨_, .openFence (by simp [Passage.content]) outside opens plain⟩
  gathered := by
    have whole := Passage.gather_inside plain [first] []
    rw [List.append_nil, Passage.gather] at whole
    rw [Passage.content, List.append_nil, Passage.gather]
    simpa [opens, Passage.ofLines, Passage.gather] using whole
  outside := fun occupied => absurd rfl occupied
  apart := by simp

theorem closedFence {first last : List Char} {inside : List (List Char)}
    (opens : isFence first = true) (plain : ∀ line ∈ inside, isFence line = false)
    (closes : isFence last = true) (after : List (List Char)) :
    Begins before (.fenced (first :: inside ++ [last])) after where
  placed := by
    have whole : before ++ ((first :: inside ++ [last]) ++ after) =
        before ++ (first :: inside ++ last :: after) := by simp
    exact ⟨_, .closedFence whole outside opens plain closes⟩
  gathered := by
    rw [Passage.content, List.append_assoc, List.cons_append, Passage.gather]
    simp only [opens, Bool.false_eq_true, if_false, if_true, Passage.ofLines, List.nil_append]
    rw [Passage.gather_inside plain, List.singleton_append, List.singleton_append, Passage.gather]
    simp [closes]
  outside := by
    intro _
    have none : inside.countP isFence = 0 :=
      List.countP_eq_zero.mpr fun line hm => by simp [plain line hm]
    simpa [Passage.content, opens, closes, none, Nat.even_add_one] using outside
  apart := by
    intro line hl prose
    rw [Passage.content, List.getLast?_concat] at hl
    cases hl
    rw [isProse, closes] at prose
    cases prose

theorem heading {line title : List Char} (read : headingTitle? line = some title)
    (after : List (List Char)) : Begins before (.heading title line) after where
  placed := ⟨_, .heading rfl outside read⟩
  gathered := Passage.gather_heading read [] after
  outside := by
    intro _
    simpa [Passage.content, isFence_of_headingTitle? read] using outside
  apart := by
    intro other hl prose
    have same : line = other := by simpa [Passage.content] using hl
    rw [← same, isProse_of_headingTitle? read] at prose
    cases prose

theorem paragraph {run after : List (List Char)}
    (above : ∀ line ∈ before.getLast?, isProse line = false) (occupied : run ≠ [])
    (prose : ∀ line ∈ run, isProse line = true)
    (below : ∀ line ∈ after.head?, isProse line = false) :
    Begins before (.paragraph run) after where
  placed := ⟨_, .paragraph rfl outside occupied prose above below⟩
  gathered := by
    rw [Passage.content, Passage.gather_prose prose, List.nil_append, Passage.gather_flush below,
      Passage.ofLines_of_ne_nil occupied, List.singleton_append]
  outside := by
    intro _
    have none : run.countP isFence = 0 :=
      List.countP_eq_zero.mpr fun line hm => by simp [(isProse_iff.mp (prose line hm)).1]
    simpa [Passage.content, none] using outside
  apart := fun _ _ _ => below

end Begins

/-- Lines begin with a blank one or with a passage. -/
theorem blank_or_begins {before more : List (List Char)} {line : List Char}
    (outside : Even (before.countP isFence))
    (apart : ∀ last ∈ before.getLast?, isProse last = true → isProse line = false) :
    allBlank line = true ∨
      ∃ passage after, line :: more = passage.content ++ after ∧ Begins before passage after := by
  by_cases marks : isFence line = true
  · right
    cases found : more.find? isFence with
    | none =>
      have plain : ∀ line ∈ more, isFence line = false := by
        simpa using List.find?_eq_none.mp found
      exact ⟨_, [], by simp [Passage.content], .openFence outside marks plain⟩
    | some last =>
      obtain ⟨closes, inside, after, rfl, plain⟩ := List.find?_eq_some_iff_append.mp found
      have plain : ∀ line ∈ inside, isFence line = false := by simpa using plain
      exact ⟨_, after, by simp [Passage.content], .closedFence outside marks plain closes after⟩
  · cases read : headingTitle? line with
    | some title => exact .inr ⟨_, more, rfl, .heading outside read more⟩
    | none =>
      by_cases blank : allBlank line = true
      · exact .inl blank
      · right
        have first : isProse line = true :=
          isProse_iff.mpr ⟨by simpa using marks, read, by simpa using blank⟩
        have above : ∀ last ∈ before.getLast?, isProse last = false := by
          intro last hl
          by_contra prose
          rw [apart last hl (by simpa using prose)] at first
          cases first
        obtain ⟨run, after, rfl, prose, below⟩ := exists_run isProse more
        refine ⟨.paragraph (line :: run), after, rfl, .paragraph outside above (by simp) ?_ below⟩
        exact List.forall_mem_cons.mpr ⟨first, prose⟩

/-- Gathering finds the passages of lines, behind others that leave no fence open. -/
theorem exists_tiling (before rest : List (List Char)) (outside : Even (before.countP isFence))
    (apart : ∀ last ∈ before.getLast?, isProse last = true →
      ∀ next ∈ rest.head?, isProse next = false) :
    ∃ placed : List Placed, placed.map Placed.passage = Passage.gather false [] rest ∧
      Tiling (before ++ rest) before.length placed := by
  -- on the number of lines still to come, one passage or blank line at a time
  induction size : rest.length using Nat.strong_induction_on generalizing before rest with
  | _ size ih =>
    subst size
    cases rest with
    | nil => exact ⟨[], by simp [Passage.gather, Passage.ofLines], .done (by simp)⟩
    | cons line more =>
      have apart : ∀ last ∈ before.getLast?, isProse last = true → isProse line = false :=
        fun last hl prose => apart last hl prose line rfl
      rcases @blank_or_begins before more line outside apart with blank | ⟨passage, after, he, h⟩
      · have outside' : Even ((before ++ [line]).countP isFence) := by
          simpa [isFence_of_allBlank blank] using outside
        obtain ⟨placed, passages, tiling⟩ := ih more.length (by simp) (before ++ [line]) more
          outside' (by simp [isProse_of_allBlank blank]) rfl
        rw [List.length_append, List.append_assoc] at tiling
        refine ⟨placed, ?_, .gap rfl blank tiling⟩
        rw [passages, Passage.gather_blank blank]
        rfl
      · obtain ⟨text, here⟩ := h.placed
        have occupied := here.parts.1
        rw [he, h.gathered]
        by_cases last : after = []
        · rw [last] at here ⊢
          refine ⟨[⟨before.length, passage⟩], by simp [Passage.gather, Passage.ofLines], ?_⟩
          exact .passage here (.done (by simp))
        · have apart : ∀ line ∈ (before ++ passage.content).getLast?, isProse line = true →
              ∀ next ∈ after.head?, isProse next = false := by
            rw [List.getLast?_append_of_ne_nil _ occupied]
            exact h.apart
          have shorter : after.length < (line :: more).length := by
            have := List.length_pos_iff.mpr occupied
            rw [he, List.length_append]
            omega
          obtain ⟨placed, passages, tiling⟩ := ih after.length shorter
            (before ++ passage.content) after (h.outside last) apart rfl
          rw [List.length_append, List.append_assoc] at tiling
          refine ⟨⟨before.length, passage⟩ :: placed, ?_, .passage here tiling⟩
          rw [List.map_cons, passages]

end Questionnaire
