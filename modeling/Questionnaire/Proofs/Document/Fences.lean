import Mathlib.Algebra.Ring.Parity
import Questionnaire.Markdown.LineStart
import Questionnaire.Proofs.Document.Conservation
import Questionnaire.Proofs.Document.Editing
import Questionnaire.Proofs.Text.Runs

/-! # Lines inside a fence

By the rule of Markdown a fence ends at a line of its mark alone, with at least as many of them as
opened it. Gathering knows no fence from another: it goes in and out at every line that starts with
three marks. So a line inside a fence stays text where an odd number of such lines comes before it,
and that is so throughout if each of them opens or ends a fence. Where a fence holds one that does
neither, a line behind it can become a field.
-/

namespace Questionnaire
open Text

/-! ## The rule of Markdown -/

namespace Markdown.Fence

/-- Whether a line ends a fence: a run of its mark, at least as long as the one that opened it, with
nothing but blanks around it. -/
def endsAt (fence : Fence) (line : List Char) : Bool :=
  (trim line).all (· = fence.mark) && fence.length ≤ (trim line).length

def pass (opened : Option Fence) (line : List Char) : Option Fence :=
  match opened with
  | none => openFence? 0 line
  | some fence => if fence.endsAt line then none else some fence

def openBehind (before : List (List Char)) : Option Fence := before.foldl pass none

/-- A line strictly inside a fence: one is open before it and does not end there. -/
def Holds (before : List (List Char)) (line : List Char) : Prop :=
  ∃ fence, openBehind before = some fence ∧ fence.endsAt line = false

/-- At every line that starts with three marks a fence begins or ends. -/
def Plain (lines : List (List Char)) : Prop :=
  ∀ before line after, lines = before ++ line :: after → isFence line = true →
    (openBehind (before ++ [line])).isSome ≠ (openBehind before).isSome

theorem plain_iff (lines : List (List Char)) :
    Plain lines ↔ ∀ i < lines.length, ∀ line ∈ lines[i]?, isFence line = true →
      (openBehind (lines.take (i + 1))).isSome ≠ (openBehind (lines.take i)).isSome := by
  constructor
  · intro h i hi line hl marks
    obtain ⟨_, rfl⟩ := List.getElem?_eq_some_iff.mp (Option.mem_def.mp hl)
    rw [List.take_succ_eq_append_getElem hi]
    exact h (lines.take i) lines[i] (lines.drop (i + 1))
      (by rw [List.getElem_cons_drop, List.take_append_drop]) marks
  · rintro h before line after rfl marks
    have here := h before.length (by simp) line (by simp) marks
    have through : (before ++ line :: after).take (before.length + 1) = before ++ [line] := by
      rw [List.append_cons]
      exact List.take_left' (by simp)
    rwa [through, List.take_left] at here

instance (lines : List (List Char)) : Decidable (Plain lines) :=
  decidable_of_iff _ (plain_iff lines).symm

theorem openBehind_concat (before : List (List Char)) (line : List Char) :
    openBehind (before ++ [line]) = pass (openBehind before) line := by
  rw [openBehind, List.foldl_append]
  rfl

def IsMark (c : Char) : Prop := c = '\x60' ∨ c = '~'

theorem isFence_of_run {line rest : List Char} {c : Char} {n : Nat} (mark : IsMark c) (three : 3 ≤ n)
    (h : trimStart line = List.replicate n c ++ rest) : isFence line = true := by
  obtain ⟨m, rfl⟩ := Nat.exists_eq_add_of_le' three
  rw [isFence, h]
  rcases mark with rfl | rfl <;> rfl

/-- A fence is opened by three marks or more. -/
theorem of_openFence? {line : List Char} {fence : Fence} (h : openFence? 0 line = some fence) :
    IsMark fence.mark ∧ 3 ≤ fence.length ∧ isFence line = true := by
  cases line with
  | nil => cases h
  | cons c rest =>
    simp only [openFence?] at h
    split at h
    · cases h
    rename_i long
    split at h
    · rename_i opens
      cases h
      have mark : IsMark c := by
        simp only [Bool.or_eq_true, Bool.and_eq_true, decide_eq_true_eq] at opens
        rcases opens with h | h
        · exact .inr h
        · exact .inl h.1
      have run : rest.takeWhile (· = c) = List.replicate (rest.takeWhile (· = c)).length c :=
        List.eq_replicate_of_mem fun d hd => by simpa using List.mem_takeWhile_imp hd
      have start : trimStart (c :: rest) = c :: rest :=
        List.dropWhile_cons_of_neg (by rcases mark with rfl | rfl <;> decide)
      have whole : trimStart (c :: rest) =
          List.replicate ((rest.takeWhile (· = c)).length + 1) c ++ rest.dropWhile (· = c) := by
        rw [start, List.replicate_succ, List.cons_append, ← run, List.takeWhile_append_dropWhile]
      exact ⟨mark, by dsimp only; omega, isFence_of_run mark (by omega) whole⟩
    · cases h

theorem isFence_of_endsAt {fence : Fence} {line : List Char} (mark : IsMark fence.mark)
    (three : 3 ≤ fence.length) (h : fence.endsAt line = true) : isFence line = true := by
  obtain ⟨alone, long⟩ := Bool.and_eq_true_iff.mp h
  obtain ⟨before, after, whole, blank, -, first, -⟩ := exists_trim line
  have run : trim line = List.replicate (trim line).length fence.mark :=
    List.eq_replicate_of_mem fun c hc => of_decide_eq_true (List.all_eq_true.mp alone c hc)
  have start : trimStart line = trim line ++ after := by
    rw [trimStart]
    nth_rewrite 1 [whole]
    rw [List.append_assoc, dropWhile_run blank first]
  rw [run] at start
  exact isFence_of_run mark (three.trans (of_decide_eq_true long)) start

theorem of_openBehind {before : List (List Char)} {fence : Fence}
    (h : openBehind before = some fence) : IsMark fence.mark ∧ 3 ≤ fence.length := by
  induction before using List.reverseRecOn with
  | nil => cases h
  | append_singleton before line ih =>
    rw [openBehind_concat] at h
    unfold pass at h
    split at h
    · exact ⟨(of_openFence? h).1, (of_openFence? h).2.1⟩
    · rename_i opened last
      split at h
      · cases h
      · cases h
        exact ih last

/-- Fences begin and end only at lines that start with three marks. -/
theorem isFence_of_change {before : List (List Char)} {line : List Char}
    (h : (openBehind (before ++ [line])).isSome ≠ (openBehind before).isSome) :
    isFence line = true := by
  rw [openBehind_concat] at h
  cases opened : openBehind before with
  | none =>
    cases opens : openFence? 0 line with
    | none => simp [opened, pass, opens] at h
    | some fence => exact (of_openFence? opens).2.2
  | some fence =>
    obtain ⟨mark, three⟩ := of_openBehind opened
    cases ends : fence.endsAt line with
    | true => exact isFence_of_endsAt mark three ends
    | false => simp [opened, pass, ends] at h

theorem Plain.of_append {before after : List (List Char)} (h : Plain (before ++ after)) :
    Plain before := by
  rintro above line below rfl marks
  exact h above line (below ++ after) (by simp) marks

/-- If every line that starts with three marks opens or ends a fence, a fence is open behind an odd
number of them. -/
theorem Plain.openBehind_isSome {lines : List (List Char)} (h : Plain lines) :
    (openBehind lines).isSome = true ↔ Odd (lines.countP isFence) := by
  induction lines using List.reverseRecOn with
  | nil => simp [openBehind]
  | append_singleton before line ih =>
    have turned := h before line [] rfl
    have same := @isFence_of_change before line
    rw [List.countP_append, List.countP_singleton]
    cases marks : isFence line with
    | true =>
      rw [if_pos rfl, Nat.odd_add_one, ← ih h.of_append, Bool.eq_not_of_ne (turned marks),
        Bool.not_eq_true']
      simp
    | false =>
      have kept : (openBehind (before ++ [line])).isSome = (openBehind before).isSome := by
        by_contra changed
        rw [same changed] at marks
        cases marks
      rw [if_neg (by simp), Nat.add_zero, kept, ih h.of_append]

end Markdown.Fence

/-! ## Lines of passages -/

namespace Passage

/-- The lines of a passage that are not blank, with whether it may be a field. -/
def flags (passage : Passage) : List (List Char × Bool) :=
  (nonBlank passage.content).map fun line => (line, passage.isCandidate)

@[simp] theorem flags_fenced (lines : List (List Char)) :
    (fenced lines).flags = (nonBlank lines).map fun line => (line, false) := rfl

@[simp] theorem flags_heading (title line : List Char) :
    (heading title line).flags = (nonBlank [line]).map fun line => (line, false) := rfl

@[simp] theorem flatMap_flags_ofLines (lines : List (List Char)) :
    (ofLines lines).flatMap flags = (nonBlank lines).map fun line => (line, true) := by
  cases lines <;> simp [ofLines, flags, content, isCandidate]

/-- The lines that are not blank, each with whether gathering puts it into a paragraph. -/
def paragraphFlags (fence : Bool) : List (List Char) → List (List Char × Bool)
  | [] => []
  | line :: rest =>
    (nonBlank [line]).map (fun line => (line, !fence && !isFence line && headingTitle? line = none)) ++
      paragraphFlags (fence ^^ isFence line) rest

theorem flags_gather (fence : Bool) (held rest : List (List Char)) :
    (gather fence held rest).flatMap flags =
      (nonBlank held).map (fun line => (line, !fence)) ++ paragraphFlags fence rest := by
  induction rest generalizing fence held with
  | nil => cases fence <;> simp [gather, paragraphFlags]
  | cons line rest ih =>
    rw [gather, paragraphFlags]
    cases fence with
    | true =>
      simp only [if_true]
      split
      · rename_i marks
        simp [ih, marks]
      · rename_i marks
        simp [ih, marks]
    | false =>
      simp only [Bool.false_eq_true, if_false]
      split
      · rename_i marks
        simp [ih, marks]
      · rename_i marks
        split
        · rename_i heading
          simp [ih, marks, heading]
        · rename_i heading
          split
          · rename_i blank
            simp [ih, blank, marks]
          · rename_i blank
            simp [ih, blank, marks, heading]

theorem map_fst_paragraphFlags (fence : Bool) (lines : List (List Char)) :
    (paragraphFlags fence lines).map Prod.fst = nonBlank lines := by
  induction lines generalizing fence with
  | nil => rfl
  | cons line rest ih =>
    rw [paragraphFlags, List.map_append, ih, List.map_map]
    cases blank : allBlank line <;> simp [blank]

theorem length_paragraphFlags (fence : Bool) (lines : List (List Char)) :
    (paragraphFlags fence lines).length = (nonBlank lines).length := by
  rw [← map_fst_paragraphFlags fence, List.length_map]

theorem paragraphFlags_append (fence : Bool) (before after : List (List Char)) :
    paragraphFlags fence (before ++ after) =
      paragraphFlags fence before ++
        paragraphFlags (fence ^^ decide (Odd (before.countP isFence))) after := by
  induction before generalizing fence with
  | nil => simp [paragraphFlags]
  | cons line before ih =>
    rw [List.cons_append, paragraphFlags, ih, paragraphFlags, List.append_assoc]
    cases marks : isFence line with
    | true =>
      rw [List.countP_cons_of_pos marks]
      by_cases odd : Odd (before.countP isFence) <;> cases fence <;> simp [Nat.odd_add_one, odd]
    | false => simp [List.countP_cons_of_neg, marks]

/-- A line that is not blank gets into a paragraph if it comes behind an even number of lines that
start with three marks, and is neither such a line nor a heading. -/
theorem paragraphFlags_getElem? (before after : List (List Char)) {line : List Char}
    (occupied : allBlank line = false) :
    (paragraphFlags false (before ++ line :: after))[(nonBlank before).length]? =
      some (line, !decide (Odd (before.countP isFence)) && !isFence line &&
        headingTitle? line = none) := by
  rw [paragraphFlags_append, ← length_paragraphFlags false before,
    List.getElem?_append_right (Nat.le_refl _), Nat.sub_self, paragraphFlags]
  simp [occupied]

end Passage

/-! ## Lines of slides and documents -/

/-- The lines of slides that are not blank, each with whether its passage may be a field. -/
def passageLines (slides : List RawSlide) : List (List Char × Bool) :=
  slides.flatMap fun slide => slide.passages.flatMap fun passage =>
    (nonBlank (passage.text.toList.splitOn '\n')).map fun line => (line, passage.isCandidate)

/-- The lines of a document that are not blank, each with whether its block is a field. -/
def Document.blockLines (document : Document) : List (List Char × Bool) :=
  document.slides.flatMap fun slide => slide.blocks.flatMap fun block =>
    (nonBlank (block.source.toList.splitOn '\n')).map fun line => (line, block.field?.isSome)

theorem passageLines_eq (source title : String) :
    passageLines (outline source title) = (Passage.ofSource source).flatMap fun passage =>
      (nonBlank (passage.text.toList.splitOn '\n')).map fun line => (line, passage.isCandidate) := by
  rw [← passages_outline source title, List.flatMap_assoc]
  rfl

/-- The lines of the passages of a source stand there in the order of the source. -/
theorem passageLines_outline (source title : String) :
    passageLines (outline source title) = Passage.paragraphFlags false (lines source.toList) := by
  have own : ∀ passage ∈ Passage.ofSource source,
      (nonBlank (passage.text.toList.splitOn '\n')).map (fun line => (line, passage.isCandidate)) =
        passage.flags := by
    intro passage hp
    rw [Passage.nonBlank_splitOn_text (Passage.feed_not_mem_content hp), Passage.flags]
  rw [passageLines_eq, List.flatMap_congr own, Passage.ofSource, Passage.flags_gather]
  rfl

/-- A passage whose block is a field may be one. -/
theorem Passage.isCandidate_of_field {options : FieldOptions} {scope : String} {passage : Passage}
    (h : (passage.block options scope).field?.isSome = true) : passage.isCandidate = true := by
  by_contra other
  simp [block, reading, other, Block.field?] at h

/-- A line of a field is a line of a passage that may be one. -/
theorem passageLines_of_blockLines {source title : String} {options : FieldOptions} {policy : Policy}
    {document : Document} (h : (compile source title options policy).result = .ok document)
    {place : Nat} {line : List Char} (hl : document.blockLines[place]? = some (line, true)) :
    (passageLines (outline source title))[place]? = some (line, true) := by
  rw [compile_eq_whole options h] at h
  cases h
  -- both lists say something about the same lines
  let marked : List (List Char × Bool × Bool) :=
    (scopedOutline source title).flatMap fun slide => slide.passages.flatMap fun passage =>
      (nonBlank (passage.text.toList.splitOn '\n')).map fun line =>
        (line, passage.isCandidate, (passage.block options slide.scope).field?.isSome)
  have blocks : Document.blockLines ⟨title, (scopedOutline source title).map
      (ScopedSlide.compiled options)⟩ = marked.map fun (line, _, field) => (line, field) := by
    simp [marked, Document.blockLines, ScopedSlide.compiled, List.flatMap_map, List.map_flatMap,
      Passage.source_block, Function.comp_def]
  have passages : passageLines (outline source title) =
      marked.map fun (line, candidate, _) => (line, candidate) := by
    rw [passageLines_eq, ← passages_scopedOutline source title, List.flatMap_assoc]
    simp [marked, List.map_flatMap, Function.comp_def]
  have may : ∀ entry ∈ marked, entry.2.2 = true → entry.2.1 = true := by
    intro entry hm field
    simp only [marked, List.mem_flatMap, List.mem_map] at hm
    obtain ⟨slide, -, passage, -, line, -, rfl⟩ := hm
    exact Passage.isCandidate_of_field field
  rw [blocks, List.getElem?_map, Option.map_eq_some_iff] at hl
  obtain ⟨⟨here, candidate, field⟩, found, he⟩ := hl
  cases he
  have candidate : candidate = true := may _ (List.mem_of_getElem? found) rfl
  rw [passages, List.getElem?_map, found, candidate]
  rfl

/-! ## Fences and fields -/

/-- No line strictly inside a fence is part of a passage that may be a field. A line that is not
blank is found by the number of such lines before it; a blank one is part of no such passage. -/
def FencesKept (source title : String) : Prop :=
  ∀ before line after, lines source.toList = before ++ line :: after →
    Markdown.Fence.Holds before line →
      (passageLines (outline source title))[(nonBlank before).length]? ≠ some (line, true)

/-- The lines of passages that may be fields: not blank, behind an even number of lines that start
with three marks, and neither such a line nor a heading. -/
theorem passageLines_getElem?_iff {source : String} {before after : List (List Char)}
    {line : List Char} (whole : lines source.toList = before ++ line :: after) (title : String) :
    (passageLines (outline source title))[(nonBlank before).length]? = some (line, true) ↔
      allBlank line = false ∧ Even (before.countP isFence) ∧ isFence line = false ∧
        headingTitle? line = none := by
  rw [passageLines_outline, whole]
  cases blank : allBlank line with
  | true =>
    refine ⟨fun found => ?_, fun h => absurd h.1 (by decide)⟩
    have hm := List.mem_map_of_mem (f := Prod.fst) (List.mem_of_getElem? found)
    rw [Passage.map_fst_paragraphFlags] at hm
    simp [nonBlank, blank] at hm
  | false =>
    rw [Passage.paragraphFlags_getElem? before after blank]
    simp [and_assoc]

/-- **Where a fence keeps its lines.** No line inside a fence can become part of a field just if each
of them that is neither blank, a heading nor the start of three marks comes behind an odd number of
lines that start with three marks. So it is where each of those opens or ends a fence. And then the
documents made of the source have no line of a fence in a field. -/
theorem fences_kept_iff (source title : String) :
    (FencesKept source title ↔
      ∀ before line after, lines source.toList = before ++ line :: after →
        Markdown.Fence.Holds before line →
          allBlank line = false → headingTitle? line = none → isFence line = false →
            Odd (before.countP isFence)) ∧
    (Markdown.Fence.Plain (lines source.toList) → FencesKept source title) ∧
    (FencesKept source title →
      ∀ options policy document, (compile source title options policy).result = .ok document →
        ∀ before line after, lines source.toList = before ++ line :: after →
          Markdown.Fence.Holds before line →
            document.blockLines[(nonBlank before).length]? ≠ some (line, true)) := by
  have kept : FencesKept source title ↔
      ∀ before line after, lines source.toList = before ++ line :: after →
        Markdown.Fence.Holds before line →
          allBlank line = false → headingTitle? line = none → isFence line = false →
            Odd (before.countP isFence) := by
    refine forall₃_congr fun before line after => forall₂_congr fun whole _ => ?_
    rw [Ne, passageLines_getElem?_iff whole, ← Nat.not_even_iff_odd]
    tauto
  refine ⟨kept, fun plain => kept.mpr ?_, ?_⟩
  · rintro before line after whole ⟨fence, opened, -⟩ - - -
    rw [whole] at plain
    rw [← plain.of_append.openBehind_isSome, opened]
    rfl
  · intro h options policy document made before line after whole inside found
    exact h before line after whole inside (passageLines_of_blockLines made found)

/-- A fence with a shorter run of its mark inside. -/
theorem fences_kept_shorter_run : FencesKept "````\n``\nq = ___\n````\n" "Quiz" :=
  (fences_kept_iff "````\n``\nq = ___\n````\n" "Quiz").2.1 (by decide +kernel)

/-- **A line inside a fence becomes a field.** The fence of four marks holds a fence of three, whose
first line ends it for gathering. -/
theorem field_inside_longer_fence :
    lines "````\n```\nq = ___\n```\n````\n".toList =
        ["````".toList, "```".toList] ++ "q = ___".toList :: ["```".toList, "````".toList] ∧
      Markdown.Fence.Holds ["````".toList, "```".toList] "q = ___".toList ∧
      ¬ FencesKept "````\n```\nq = ___\n```\n````\n" "Quiz" ∧
      ∃ document,
        (compile "````\n```\nq = ___\n```\n````\n" "Quiz" {} .strict).result = .ok document ∧
          document.blockLines[2]? = some ("q = ___".toList, true) := by
  have whole : lines "````\n```\nq = ___\n```\n````\n".toList =
      ["````".toList, "```".toList] ++ "q = ___".toList :: ["```".toList, "````".toList] := by
    decide +kernel
  have inside : Markdown.Fence.Holds ["````".toList, "```".toList] "q = ___".toList :=
    ⟨⟨'\x60', 4, 0⟩, rfl, by decide +kernel⟩
  refine ⟨whole, inside, fun kept => ?_, ?_⟩
  · exact kept _ _ _ whole inside ((passageLines_getElem?_iff whole "Quiz").mpr (by decide +kernel))
  · have found : (compile "````\n```\nq = ___\n```\n````\n" "Quiz" {} .strict).result.toOption.map
        (fun document => document.blockLines[2]?) = some (some ("q = ___".toList, true)) := by
      decide +kernel
    cases made : (compile "````\n```\nq = ___\n```\n````\n" "Quiz" {} .strict).result with
    | ok document =>
      rw [made] at found
      exact ⟨document, rfl, Option.some.inj found⟩
    | error failure =>
      rw [made] at found
      cases found

end Questionnaire
