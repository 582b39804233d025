import Questionnaire.Proofs.Document.Conservation
import Questionnaire.Proofs.Document.Editing

/-! # Recompiling the text of a document

The texts of the blocks of a document, with a blank line between each two, are again a source of it.
Every passage that is gathered ends by itself: a heading with its line, a paragraph at the blank
line, a fence at the line that closes it. Only a fence left open does not, and it is the last
passage. So the passages stay apart in the new source, and all that they lose are the empty lines at
the end of the open fence, which are not in its text either.
-/

namespace Questionnaire
open Text

/-! ## Passages that end by themselves -/

theorem ne_nil_of_headingTitle? {line title : List Char} (h : headingTitle? line = some title) :
    line ≠ [] := by
  rintro rfl
  cases h

/-- A line of a paragraph goes on the paragraph under way, or begins one. -/
theorem IsParagraph.concat {held : List (List Char)} {line : List Char} (alone : IsParagraph [line])
    (h : held = [] ∨ IsParagraph held) : IsParagraph (held ++ [line]) := by
  rcases h with rfl | h
  · exact alone
  · exact ⟨by simp, List.forall_mem_append.mpr ⟨h.isLine, alone.isLine⟩,
      List.forall_mem_append.mpr ⟨h.not_blank, alone.not_blank⟩,
      List.forall_mem_append.mpr ⟨h.not_fence, alone.not_fence⟩,
      List.forall_mem_append.mpr ⟨h.not_heading, alone.not_heading⟩⟩

namespace Passage

/-- Passages that end with their own lines, as long as a blank line or nothing comes next. -/
inductive Closed : Passage → Prop
  | paragraph {lines} (h : IsParagraph lines) : Closed (.paragraph lines)
  | heading {title line} (isLine : IsLine line) (plain : isFence line = false)
      (read : headingTitle? line = some title) : Closed (.heading title line)
  | fenced {first inside last} (opens : isFence first = true)
      (plain : ∀ line ∈ inside, isFence line = false) (ends : isFence last = true)
      (isLine : ∀ line ∈ first :: inside ++ [last], IsLine line) :
      Closed (.fenced (first :: inside ++ [last]))

/-- Passages that end by themselves, and perhaps an open fence, which does not end with an empty
line. -/
inductive Gathered : List Passage → Prop
  | nil : Gathered []
  | unclosed {first inside} (opens : isFence first = true)
      (plain : ∀ line ∈ inside, isFence line = false)
      (isLine : ∀ line ∈ first :: inside, IsLine line)
      (occupied : ∀ line ∈ inside.getLast?, line ≠ []) : Gathered [.fenced (first :: inside)]
  | cons {passage rest} (closed : passage.Closed) (more : Gathered rest) :
      Gathered (passage :: rest)

/-- A passage without the empty lines at the end of an open fence. -/
def tighten : Passage → Passage
  | fenced lines => .fenced (lines.rdropWhile List.isEmpty)
  | passage => passage

theorem Closed.tighten_eq {passage : Passage} (h : passage.Closed) : passage.tighten = passage := by
  cases h with
  | paragraph => rfl
  | heading => rfl
  | fenced opens plain ends isLine =>
    rw [tighten, List.rdropWhile_concat_neg _ _ _ (by simpa using ne_nil_of_isFence ends)]

theorem Gathered.ofLines_append {held : List (List Char)} (h : held = [] ∨ IsParagraph held)
    {rest : List Passage} (more : Gathered (rest.map tighten)) :
    Gathered ((ofLines held ++ rest).map tighten) := by
  rcases h with rfl | h
  · exact more
  · rw [ofLines_of_ne_nil h.ne_nil]
    exact .cons (.paragraph h) more

/-- The first line of a fence is kept: it is not empty. -/
theorem rdropWhile_fence {first : List Char} (opens : isFence first = true)
    (inside : List (List Char)) :
    (first :: inside).rdropWhile List.isEmpty = first :: inside.rdropWhile List.isEmpty := by
  have occupied : first.isEmpty = false := by simpa using ne_nil_of_isFence opens
  induction inside using List.reverseRecOn with
  | nil => simp [List.rdropWhile_singleton, occupied]
  | append_singleton inside line ih =>
    rw [← List.cons_append, List.rdropWhile_concat, List.rdropWhile_concat, ih]
    split <;> rfl

theorem Gathered.open_fence {first : List Char} {inside : List (List Char)}
    (opens : isFence first = true) (plain : ∀ line ∈ inside, isFence line = false)
    (isLine : ∀ line ∈ first :: inside, IsLine line) :
    Gathered ([.fenced (first :: inside)].map tighten) := by
  have kept : inside.rdropWhile List.isEmpty <+: inside := List.rdropWhile_prefix ..
  rw [List.map_singleton, tighten, rdropWhile_fence opens]
  refine .unclosed opens (fun line hm => plain line (kept.subset hm)) ?_ ?_
  · intro line hm
    rcases List.mem_cons.mp hm with rfl | hm
    · exact isLine line (by simp)
    · exact isLine line (by simp [kept.subset hm])
  · intro line hm
    obtain ⟨occupied, rfl⟩ := List.mem_getLast?_eq_getLast hm
    have last := List.rdropWhile_last_not List.isEmpty inside occupied
    simpa using last

/-- What gathering has under way: the lines of a paragraph, or those of an open fence. -/
def Underway : Bool → List (List Char) → Prop
  | false, held => held = [] ∨ IsParagraph held
  | true, held => ∃ first inside, held = first :: inside ∧ isFence first = true ∧
      ∀ line ∈ inside, isFence line = false

/-- Lines are gathered into passages that end by themselves, and perhaps an open fence. -/
theorem gathered_gather {fence : Bool} {held rest : List (List Char)} (underway : Underway fence held)
    (isLine : ∀ line ∈ held ++ rest, IsLine line) :
    Gathered ((gather fence held rest).map tighten) := by
  -- on the lines still to come: what is held stays a paragraph or an open fence
  induction rest generalizing fence held with
  | nil =>
    cases fence with
    | false =>
      have only : Gathered ((ofLines held ++ []).map tighten) := .ofLines_append underway .nil
      simpa [gather] using only
    | true =>
      obtain ⟨first, inside, rfl, opens, plain⟩ := underway
      exact .open_fence opens plain (by simpa using isLine)
  | cons line rest ih =>
    have lineHere : IsLine line := isLine line (by simp)
    have below : ∀ line ∈ rest, IsLine line := fun line hm => isLine line (by simp [hm])
    have grown : ∀ line' ∈ held ++ [line] ++ rest, IsLine line' := by simpa using isLine
    rw [gather]
    cases fence with
    | true =>
      obtain ⟨first, inside, rfl, opens, plain⟩ := underway
      simp only [if_true]
      split
      · rename_i ends
        have closed : Closed (.fenced (first :: inside ++ [line])) := by
          refine .fenced opens plain ends fun line' hm => grown line' ?_
          exact List.mem_append_left _ hm
        rw [List.map_cons, closed.tighten_eq]
        exact .cons closed (ih (.inl rfl) below)
      · rename_i other
        refine ih ⟨first, inside ++ [line], rfl, opens, ?_⟩ grown
        exact List.forall_mem_append.mpr ⟨plain, by simpa using other⟩
    | false =>
      simp only [Bool.false_eq_true, if_false]
      split
      · rename_i opens
        refine .ofLines_append underway (ih ⟨line, [], rfl, opens, by simp⟩ ?_)
        simpa using ⟨lineHere, below⟩
      · rename_i other
        have other : isFence line = false := by simpa using other
        split
        · rename_i title read
          refine .ofLines_append underway ?_
          exact .cons (.heading lineHere other read) (ih (.inl rfl) below)
        · rename_i unread
          split
          · exact .ofLines_append underway (ih (.inl rfl) below)
          · rename_i occupied
            have occupied : allBlank line = false := by simpa using occupied
            have alone : IsParagraph [line] := ⟨by simp, by simpa using lineHere,
              by simpa using occupied, by simpa using other, by simpa using unread⟩
            exact ih (.inr (alone.concat underway)) grown

/-! ## Passages with an empty line between each two -/

def spaced (passages : List Passage) : List (List Char) := [[]].intercalate (passages.map content)

theorem spaced_cons {rest : List Passage} (h : rest ≠ []) (passage : Passage) :
    spaced (passage :: rest) = passage.content ++ [] :: spaced rest := by
  rw [spaced, List.map_cons, List.intercalate_cons_of_ne_nil (by simpa using h), List.append_assoc]
  rfl

/-- A passage that ends by itself is gathered again, and nothing of what follows with it. -/
theorem Closed.gather_append {passage : Passage} (h : passage.Closed) {rest : List (List Char)}
    (apart : ∀ line ∈ rest.head?, allBlank line = true) :
    gather false [] (passage.content ++ rest) = passage :: gather false [] rest := by
  cases h with
  | @paragraph lines h =>
    have stop : ∀ line ∈ rest.head?, isProse line = false := fun line hm =>
      isProse_of_allBlank (apart line hm)
    rw [content, gather_prose h.prose, List.nil_append, gather_flush stop,
      ofLines_of_ne_nil h.ne_nil, List.singleton_append]
  | heading isLine plain read =>
    rw [content, List.singleton_append, gather_heading read]
    rfl
  | @fenced first inside last opens plain ends isLine =>
    rw [content, List.append_assoc, List.cons_append, gather]
    simp only [opens, Bool.false_eq_true, if_false, if_true, ofLines, List.nil_append]
    rw [gather_inside plain, List.singleton_append, List.singleton_append, gather]
    simp [ends]

/-- Passages with an empty line between each two are gathered again. -/
theorem gather_spaced {passages : List Passage} (h : Gathered passages) :
    gather false [] (spaced passages) = passages := by
  induction h with
  | nil => rfl
  | @unclosed first inside opens plain isLine occupied =>
    have whole := gather_inside plain [first] []
    rw [List.append_nil, gather] at whole
    rw [spaced, List.map_singleton, List.intercalate_singleton, content, gather]
    simpa [opens, ofLines] using whole
  | @cons passage rest closed more ih =>
    by_cases last : rest = []
    · have nothing : ∀ line ∈ ([] : List (List Char)).head?, allBlank line = true := by simp
      have alone := closed.gather_append nothing
      rw [List.append_nil, gather] at alone
      rw [last, spaced, List.map_singleton, List.intercalate_singleton]
      exact alone
    · have apart : ∀ line ∈ (([] : List Char) :: spaced rest).head?, allBlank line = true := by
        simp [allBlank]
      rw [spaced_cons last, closed.gather_append apart, gather_blank rfl, ih]
      rfl

/-! ## Passages as texts -/

theorem text_tighten (passage : Passage) : passage.tighten.text = passage.text := by
  cases passage with
  | paragraph lines => rfl
  | heading title line => rfl
  | fenced lines => rw [tighten, text, text, dropEndWhile_joinLines_rdropWhile]

theorem tighten_isCandidate (passage : Passage) :
    passage.tighten.isCandidate = passage.isCandidate := by
  cases passage <;> rfl

/-- Lines that are read off again when they are joined. -/
structure Firm (lines : List (List Char)) : Prop where
  ne_nil : lines ≠ []
  isLine : ∀ line ∈ lines, IsLine line
  last_ne_nil : ∀ line ∈ lines.getLast?, line ≠ []

theorem Closed.firm {passage : Passage} (h : passage.Closed) : Firm passage.content := by
  cases h with
  | @paragraph lines h =>
    refine ⟨h.ne_nil, h.isLine, ?_⟩
    rintro line hm rfl
    have occupied := h.not_blank [] (List.mem_of_getLast? hm)
    cases occupied
  | @heading title line isLine plain read =>
    refine ⟨by simp [content], by simpa [content] using isLine, ?_⟩
    simpa [content] using ne_nil_of_headingTitle? read
  | @fenced first inside last opens plain ends isLine =>
    refine ⟨by simp [content], isLine, ?_⟩
    rw [content, List.getLast?_concat]
    simpa using ne_nil_of_isFence ends

theorem Gathered.firm {passages : List Passage} (h : Gathered passages) :
    ∀ passage ∈ passages, Firm passage.content := by
  induction h with
  | nil => simp
  | @unclosed first inside opens plain isLine occupied =>
    refine List.forall_mem_singleton.mpr ⟨by simp [content], isLine, ?_⟩
    cases inside with
    | nil => simpa [content] using ne_nil_of_isFence opens
    | cons line inside => simpa [content, List.getLast?_cons_cons] using occupied
  | cons closed more ih => exact List.forall_mem_cons.mpr ⟨closed.firm, ih⟩

theorem toList_text {passage : Passage} (h : Firm passage.content) :
    passage.text.toList = joinLines passage.content := by
  cases passage with
  | paragraph lines => exact String.toList_ofList
  | heading title line => exact String.toList_ofList
  | fenced lines =>
    have free : ∀ line ∈ lines, '\n' ∉ line := fun line hm => (h.isLine line hm).feed_not_mem
    rw [text, String.toList_ofList, dropEndWhile_joinLines free h.last_ne_nil]
    rfl

theorem firm_spaced {passages : List Passage} (h : ∀ passage ∈ passages, Firm passage.content)
    (occupied : passages ≠ []) : Firm (spaced passages) := by
  induction passages with
  | nil => exact absurd rfl occupied
  | cons passage rest ih =>
    obtain ⟨here, more⟩ := List.forall_mem_cons.mp h
    by_cases last : rest = []
    · rw [last, spaced, List.map_singleton, List.intercalate_singleton]
      exact here
    · have below : Firm (spaced rest) := ih more last
      rw [spaced_cons last]
      refine ⟨by simp, ?_, ?_⟩
      · have gap : IsLine [] := ⟨by simp, by simp⟩
        exact List.forall_mem_append.mpr ⟨here.isLine, List.forall_mem_cons.mpr ⟨gap, below.isLine⟩⟩
      · intro line hm
        rw [List.getLast?_append_cons, List.getLast?_cons_of_ne_nil below.ne_nil] at hm
        exact below.last_ne_nil line hm

/-- **Passages that are gathered are gathered from their own texts.** -/
theorem ofSource_texts {source : String} (plain : '\r' ∉ source.toList) :
    ofSource ("\n\n".intercalate ((ofSource source).map text)) =
      (ofSource source).map tighten := by
  have gathered : Gathered ((ofSource source).map tighten) :=
    gathered_gather (.inl rfl) (by simpa using isLine_of_mem_lines plain)
  have texts : (ofSource source).map text = ((ofSource source).map tighten).map text := by
    simp [text_tighten]
  rw [texts]
  generalize (ofSource source).map tighten = passages at gathered
  have written : ("\n\n".intercalate (passages.map text)).toList = joinLines (spaced passages) := by
    have texts : passages.map (String.toList ∘ text) = (passages.map content).map joinLines := by
      rw [List.map_map]
      exact List.map_congr_left fun passage hp => toList_text (gathered.firm passage hp)
    rw [String.toList_intercalate, List.map_map, texts]
    exact intercalate_joinLines (List.forall_mem_map.mpr fun passage hp =>
      (gathered.firm passage hp).ne_nil)
  rw [ofSource, written]
  by_cases occupied : passages = []
  · rw [occupied]; rfl
  · have firm := firm_spaced gathered.firm occupied
    rw [lines_joinLines firm.isLine firm.last_ne_nil, gather_spaced gathered]

end Passage

/-! ## Outlines and documents -/

def RawSlide.tighten (raw : RawSlide) : RawSlide := ⟨raw.title, raw.passages.map Passage.tighten⟩

theorem gatherSlides_tighten (passages : List Passage) :
    gatherSlides (passages.map Passage.tighten) =
      ((gatherSlides passages).1.map Passage.tighten,
        (gatherSlides passages).2.map RawSlide.tighten) := by
  induction passages with
  | nil => rfl
  | cons passage rest ih =>
    cases passage <;> simp [gatherSlides, ih, Passage.tighten, RawSlide.tighten]

theorem outline_tighten {source other : String} (title : String)
    (h : Passage.ofSource other = (Passage.ofSource source).map Passage.tighten) :
    outline other title = (outline source title).map RawSlide.tighten := by
  rw [outline, outline, h, gatherSlides_tighten]
  generalize gatherSlides (Passage.ofSource source) = gathered
  obtain ⟨lead, slides⟩ := gathered
  cases lead <;> cases slides <;> simp [RawSlide.tighten]

section

variable (options : FieldOptions) (policy : Policy)

theorem compilePassage_tighten (scope : String) (seen : List String) (passage : Passage) :
    compilePassage scope options policy seen passage.tighten =
      compilePassage scope options policy seen passage := by
  simp only [compilePassage, Passage.text_tighten, Passage.tighten_isCandidate]

theorem compilePassages_tighten (scope : String) (seen : List String) (passages : List Passage) :
    compilePassages scope options policy seen (passages.map Passage.tighten) =
      compilePassages scope options policy seen passages := by
  induction passages generalizing seen with
  | nil => rfl
  | cons passage rest ih =>
    simp only [List.map_cons, compilePassages, compilePassage_tighten, ih]

theorem compileSlides_tighten (scopes : Scopes) (raws : List RawSlide) :
    compileSlides options policy scopes (raws.map RawSlide.tighten) =
      compileSlides options policy scopes raws := by
  induction raws generalizing scopes with
  | nil => rfl
  | cons raw rest ih =>
    simp only [List.map_cons, compileSlides, RawSlide.tighten, compilePassages_tighten, ih]

/-- A source and the texts of its passages compile to the same, whatever that is. -/
theorem compile_texts {source : String} (plain : '\r' ∉ source.toList) (title : String) :
    compile ("\n\n".intercalate ((Passage.ofSource source).map Passage.text)) title options policy =
      compile source title options policy := by
  rw [compile, compile, outline_tighten title (Passage.ofSource_texts plain), compileSlides_tighten]

end

/-- The texts that the blocks of a document stand for, with a blank line between each two. -/
def Document.text (document : Document) : String :=
  "\n\n".intercalate (document.slides.flatMap fun slide => slide.blocks.map Block.source)

theorem Document.text_eq {source title : String} {options : FieldOptions} {policy : Policy}
    {document : Document} (h : (compile source title options policy).result = .ok document) :
    document.text = "\n\n".intercalate ((Passage.ofSource source).map Passage.text) := by
  rw [compile_eq_whole options h] at h
  cases h
  rw [Document.text, ← passages_scopedOutline source title, List.map_flatMap]
  simp [ScopedSlide.compiled, List.flatMap_map, Function.comp_def, Passage.source_block]

/-- **Recompiling the text of a document is a fixed point.** The texts of the blocks of a document,
with a blank line between each two, compile to the same document with the same reports. -/
theorem compile_own_text {source title : String} {options : FieldOptions} {policy : Policy}
    {document : Document} (plain : '\r' ∉ source.toList)
    (h : (compile source title options policy).result = .ok document) :
    compile document.text title options policy =
      ⟨.ok document, (compile source title options policy).diagnostics⟩ := by
  rw [Document.text_eq h, compile_texts options policy plain title, ← h]

/-- A paragraph right before a heading, a code that is used twice, a field right before a fence, and
empty lines at the end of the fence, which stays open. -/
theorem compile_own_text_open_fence :
    let source := "Hello\n# A\na = ___\n\n \na = ?\n```\nq = ___\n\n\n"
    let reports : List Diagnostic :=
      [⟨.warning, "a_a", "unmatched element '?', rendering label only"⟩,
        ⟨.warning, "a_a", "field code 'a' is used more than once on this slide"⟩]
    ∃ document, (compile source "Quiz" {} .strict).result = .ok document ∧
      document.text = "Hello\n\n# A\n\na = ___\n\na = ?\n\n```\nq = ___" ∧
      compile document.text "Quiz" {} .strict = ⟨.ok document, reports⟩ := by
  intro source reports
  have plain : '\r' ∉ source.toList := by decide +kernel
  have accepted : (compile source "Quiz" {} .strict).result.isOk := by decide +kernel
  have reported : (compile source "Quiz" {} .strict).diagnostics = reports := by decide +kernel
  have texts : "\n\n".intercalate ((Passage.ofSource source).map Passage.text) =
      "Hello\n\n# A\n\na = ___\n\na = ?\n\n```\nq = ___" := by decide +kernel
  cases h : (compile source "Quiz" {} .strict).result with
  | ok document =>
    refine ⟨document, rfl, (Document.text_eq h).trans texts, ?_⟩
    rw [compile_own_text plain h, reported]
  | error failure =>
    rw [h] at accepted
    cases accepted

end Questionnaire
