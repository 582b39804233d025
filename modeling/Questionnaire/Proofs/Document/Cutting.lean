import Mathlib.Data.List.Sort
import Questionnaire.Proofs.Document.Places

/-! # Where a source is cut

The passages of a source are cut into slides at the headings: each of these starts a slide, and what
comes before the first one is a slide with the title of the document. Lines can be cut like that in
one way only, and it is the one in which an outline cuts them.
-/

namespace Questionnaire
open Text

/-! ## Sections -/

/-- A heading with the passages below it, up to the next heading. -/
structure Section where
  /-- The number of lines above the heading. -/
  start : Nat
  title : List Char
  line : List Char
  below : List Placed

namespace Section

def placed (part : Section) : List Placed :=
  ⟨part.start, .heading part.title part.line⟩ :: part.below

def slide (part : Section) : RawSlide :=
  ⟨String.ofList part.title, part.placed.map Placed.passage⟩

end Section

structure Cutting (all : List (List Char)) where
  /-- The passages before the first heading. -/
  lead : List Placed
  sections : List Section
  ordered : (lead ++ sections.flatMap Section.placed).Pairwise
    fun one other => one.start < other.start
  mem_iff : ∀ entry : Placed, entry ∈ lead ++ sections.flatMap Section.placed ↔
    PassageAt all entry.start entry.passage entry.passage.text
  lead_above : ∀ entry ∈ lead, ∀ n title line text,
    PassageAt all n (.heading title line) text → entry.start < n
  /-- The heading of a section is the last one above each of its passages. -/
  last_heading : ∀ part ∈ sections, ∀ entry ∈ part.below, ∀ n title line text,
    PassageAt all n (.heading title line) text → n ≤ entry.start → n ≤ part.start

/-- The slides of lines that are cut at their headings: one for each heading, below a slide with the
title of the document if there are passages before the first heading or no heading at all. -/
def Cutting.slides {all : List (List Char)} (cutting : Cutting all) (documentTitle : String) :
    List RawSlide :=
  let slides := cutting.sections.map Section.slide
  if cutting.lead ≠ [] ∨ cutting.sections = [] then
    ⟨documentTitle, cutting.lead.map Placed.passage⟩ :: slides
  else slides

/-! ## Cutting a list of passages -/

def cutPassages : List Placed → List Placed × List Section
  | [] => ([], [])
  | entry :: rest =>
    let (lead, sections) := cutPassages rest
    match entry.passage with
    | .heading title line => ([], ⟨entry.start, title, line, lead⟩ :: sections)
    | _ => (entry :: lead, sections)

def Placed.Plain (entry : Placed) : Prop := ∀ title line, entry.passage ≠ .heading title line

theorem cutPassages_cons {entry : Placed} (h : entry.Plain) (rest : List Placed) :
    cutPassages (entry :: rest) = (entry :: (cutPassages rest).1, (cutPassages rest).2) := by
  obtain ⟨start, passage⟩ := entry
  cases passage with
  | heading title line => exact absurd rfl (h title line)
  | paragraph lines => rfl
  | fenced lines => rfl

/-- Slides are gathered from passages as these are cut. -/
theorem gatherSlides_map (placed : List Placed) :
    gatherSlides (placed.map Placed.passage) =
      ((cutPassages placed).1.map Placed.passage, (cutPassages placed).2.map Section.slide) := by
  induction placed with
  | nil => rfl
  | cons entry rest ih =>
    obtain ⟨start, passage⟩ := entry
    rw [List.map_cons]
    cases passage <;> simp [gatherSlides, cutPassages, ih, Section.slide, Section.placed]

theorem placed_cutPassages (placed : List Placed) :
    (cutPassages placed).1 ++ (cutPassages placed).2.flatMap Section.placed = placed := by
  induction placed with
  | nil => rfl
  | cons entry rest ih =>
    obtain ⟨start, passage⟩ := entry
    cases passage <;> simp [cutPassages, Section.placed, ih]

theorem plain_cutPassages (placed : List Placed) :
    (∀ entry ∈ (cutPassages placed).1, entry.Plain) ∧
      ∀ part ∈ (cutPassages placed).2, ∀ entry ∈ part.below, entry.Plain := by
  induction placed with
  | nil => simp [cutPassages]
  | cons entry rest ih =>
    obtain ⟨lead, below⟩ := ih
    by_cases plain : entry.Plain
    · rw [cutPassages_cons plain]
      exact ⟨List.forall_mem_cons.mpr ⟨plain, lead⟩, below⟩
    · obtain ⟨start, passage⟩ := entry
      simp only [Placed.Plain, not_forall, not_not] at plain
      obtain ⟨title, line, rfl⟩ := plain
      exact ⟨by simp [cutPassages], List.forall_mem_cons.mpr ⟨lead, below⟩⟩

/-- Where the headings are known, passages can be cut in one way only. -/
theorem cutPassages_eq {lead : List Placed} {sections : List Section}
    (plain : ∀ entry ∈ lead, entry.Plain)
    (below : ∀ part ∈ sections, ∀ entry ∈ part.below, entry.Plain) :
    cutPassages (lead ++ sections.flatMap Section.placed) = (lead, sections) := by
  have more : ∀ {back : List Placed} {rest : List Section} (front : List Placed),
      (∀ entry ∈ front, entry.Plain) → cutPassages back = ([], rest) →
        cutPassages (front ++ back) = (front, rest) := by
    intro back rest front plain cut
    induction front with
    | nil => exact cut
    | cons entry front ih =>
      obtain ⟨here, others⟩ := List.forall_mem_cons.mp plain
      rw [List.cons_append, cutPassages_cons here, ih others]
  refine more lead plain ?_
  induction sections with
  | nil => rfl
  | cons part sections ih =>
    obtain ⟨here, others⟩ := List.forall_mem_cons.mp below
    rw [List.flatMap_cons, Section.placed, List.cons_append, cutPassages,
      more part.below here (ih others)]

/-! ## Cutting lines -/

namespace Cutting

variable {all : List (List Char)}

def placed (cutting : Cutting all) : List Placed :=
  cutting.lead ++ cutting.sections.flatMap Section.placed

/-- The lines have the same passages however they are cut. -/
theorem placed_eq (cutting : Cutting all) {placed : List Placed}
    (ordered : placed.Pairwise fun one other => one.start < other.start)
    (mem_iff : ∀ entry : Placed, entry ∈ placed ↔
      PassageAt all entry.start entry.passage entry.passage.text) :
    cutting.placed = placed := by
  have irrefl : Std.Irrefl fun one other : Placed => one.start < other.start :=
    ⟨fun entry => Nat.lt_irrefl entry.start⟩
  have antisymm : Std.Antisymm fun one other : Placed => one.start < other.start :=
    ⟨fun one other above below => absurd above (Nat.lt_asymm below)⟩
  refine List.Pairwise.eq_of_mem_iff cutting.ordered ordered fun entry => ?_
  exact (cutting.mem_iff entry).trans (mem_iff entry).symm

/-- No heading is in the lead or below another in its section. -/
theorem plain (cutting : Cutting all) :
    (∀ entry ∈ cutting.lead, entry.Plain) ∧
      ∀ part ∈ cutting.sections, ∀ entry ∈ part.below, entry.Plain := by
  constructor
  · rintro ⟨start, passage⟩ hm title line rfl
    have here := (cutting.mem_iff _).mp (List.mem_append_left _ hm)
    exact Nat.lt_irrefl _ (cutting.lead_above _ hm _ _ _ _ here)
  · rintro part hp ⟨start, passage⟩ hm title line rfl
    have inside : (⟨start, .heading title line⟩ : Placed) ∈ part.placed := List.mem_cons_of_mem _ hm
    have here := (cutting.mem_iff _).mp
      (List.mem_append_right _ (List.mem_flatMap.mpr ⟨part, hp, inside⟩))
    have last := cutting.last_heading part hp _ hm _ _ _ _ here (Nat.le_refl _)
    have ordered := (List.pairwise_flatMap.mp (List.pairwise_append.mp cutting.ordered).2.1).1
    have above := List.rel_of_pairwise_cons (ordered part hp) hm
    exact absurd last (Nat.not_le_of_lt above)

section

variable {placed : List Placed}
  (ordered : placed.Pairwise fun one other => one.start < other.start)
  (mem_iff : ∀ entry : Placed, entry ∈ placed ↔
    PassageAt all entry.start entry.passage entry.passage.text)
  {n : Nat} {title line : List Char} {text : String}

include mem_iff

theorem heading_mem (h : PassageAt all n (.heading title line) text) :
    (⟨n, .heading title line⟩ : Placed) ∈ placed := by
  cases h with
  | heading whole outside read => exact (mem_iff _).mpr (.heading whole outside read)

include ordered

theorem lead_above_heading {entry : Placed} (hm : entry ∈ (cutPassages placed).1)
    (h : PassageAt all n (.heading title line) text) : entry.start < n := by
  have found := heading_mem mem_iff h
  rw [← placed_cutPassages placed] at ordered found
  obtain ⟨-, -, apart⟩ := List.pairwise_append.mp ordered
  rcases List.mem_append.mp found with inside | below
  · exact absurd rfl ((plain_cutPassages placed).1 _ inside title line)
  · exact apart entry hm _ below

theorem heading_above_section {part : Section} (hp : part ∈ (cutPassages placed).2) {entry : Placed}
    (hm : entry ∈ part.below) (h : PassageAt all n (.heading title line) text)
    (above : n ≤ entry.start) : n ≤ part.start := by
  have found := heading_mem mem_iff h
  obtain ⟨plainLead, plainBelow⟩ := plain_cutPassages placed
  obtain ⟨front, back, parts⟩ := List.append_of_mem hp
  rw [← placed_cutPassages placed, parts, List.flatMap_append, List.flatMap_cons] at ordered found
  obtain ⟨-, ordered, -⟩ := List.pairwise_append.mp ordered
  obtain ⟨-, ordered, upper⟩ := List.pairwise_append.mp ordered
  obtain ⟨-, -, lower⟩ := List.pairwise_append.mp ordered
  have head : (⟨part.start, .heading part.title part.line⟩ : Placed) ∈ part.placed :=
    List.mem_cons_self
  have inside : entry ∈ part.placed := List.mem_cons_of_mem _ hm
  -- the heading is in the lead, above the section, in it, or below it
  rcases List.mem_append.mp found with lead | found
  · exact absurd rfl (plainLead _ lead title line)
  rcases List.mem_append.mp found with before | found
  · exact Nat.le_of_lt (upper _ before _ (List.mem_append_left _ head))
  rcases List.mem_append.mp found with here | after
  · rcases List.mem_cons.mp here with same | below
    · cases same
      exact Nat.le_refl _
    · exact absurd rfl (plainBelow part hp _ below title line)
  · exact absurd above (Nat.not_le_of_lt (lower entry inside _ after))

end

def ofPlaced {placed : List Placed}
    (ordered : placed.Pairwise fun one other => one.start < other.start)
    (mem_iff : ∀ entry : Placed, entry ∈ placed ↔
      PassageAt all entry.start entry.passage entry.passage.text) : Cutting all where
  lead := (cutPassages placed).1
  sections := (cutPassages placed).2
  ordered := by rwa [placed_cutPassages]
  mem_iff := by rwa [placed_cutPassages]
  lead_above := fun _ hm _ _ _ _ h => lead_above_heading ordered mem_iff hm h
  last_heading := fun _ hp _ hm _ _ _ _ h above =>
    heading_above_section ordered mem_iff hp hm h above

end Cutting

/-- The passages of a source with their places. -/
theorem exists_placed (source : String) :
    ∃ placed : List Placed, placed.map Placed.passage = Passage.ofSource source ∧
      placed.Pairwise (fun one other => one.start < other.start) ∧
      ∀ entry : Placed, entry ∈ placed ↔
        PassageAt (lines source.toList) entry.start entry.passage entry.passage.text := by
  obtain ⟨placed, passages, tiling⟩ := exists_tiling [] (lines source.toList) (by simp) (by simp)
  rw [List.nil_append] at tiling
  refine ⟨placed, passages, tiling.ordered, fun entry => ⟨fun hm => ?_, fun h => ?_⟩⟩
  · obtain ⟨text, h⟩ := tiling.passageAt entry hm
    rwa [h.text_eq (lines_free source.toList)]
  · exact tiling.mem_of_passageAt (Nat.zero_le _) h

/-- **An outline cuts a source at its fences, blank lines and headings.** Its lines can be cut, and
whatever cuts them gives the slides of the outline. -/
theorem outline_eq_slides (source documentTitle : String) :
    Nonempty (Cutting (lines source.toList)) ∧
      ∀ cutting : Cutting (lines source.toList),
        outline source documentTitle = cutting.slides documentTitle := by
  obtain ⟨placed, passages, ordered, mem_iff⟩ := exists_placed source
  refine ⟨⟨Cutting.ofPlaced ordered mem_iff⟩, fun cutting => ?_⟩
  obtain ⟨lead, below⟩ := cutting.plain
  have cut : cutPassages placed = (cutting.lead, cutting.sections) := by
    rw [← cutting.placed_eq ordered mem_iff, Cutting.placed, cutPassages_eq lead below]
  rw [outline, ← passages, gatherSlides_map, cut, Cutting.slides]
  cases cutting.lead <;> cases cutting.sections <;> simp

/-- **An open fence has no empty line at its end.** It goes on to the end of the source, but the text
of its passage does not. -/
theorem open_fence_without_empty_lines :
    lines "```\na\n\n\n".toList = "```".toList :: ["a".toList, [], []] ∧
      isFence "```".toList = true ∧ (∀ line ∈ ["a".toList, [], []], isFence line = false) ∧
      ¬ ∃ slide ∈ outline "```\na\n\n\n" "Quiz", ∃ passage ∈ slide.passages,
        passage.text = String.ofList (joinLines ("```".toList :: ["a".toList, [], []])) := by
  refine ⟨by decide +kernel, by decide, by decide, ?_⟩
  decide +kernel

end Questionnaire
