import Questionnaire.Proofs.Document.Outline
import Questionnaire.Proofs.Document.Policy

/-! # A document keeps the text of its source

Every block stands for the text of its passage, whether it is a field or not, and the passages have
the lines of the source. So reading the blocks in order gives the lines of the source again.
-/

namespace Questionnaire
open Text

/-- The text of the source that a block stands for. -/
def Block.source : Block → String
  | text content => content
  | field compiled => compiled.header.source

/-- The lines that the blocks of a document stand for, in order and without the blank ones. -/
def Document.sourceLines (document : Document) : List (List Char) :=
  document.slides.flatMap fun slide => slide.blocks.flatMap fun block =>
    nonBlank (block.source.toList.splitOn '\n')

/-- A block stands for the text of its passage. -/
theorem Passage.source_block (options : FieldOptions) (scope : String) (passage : Passage) :
    (passage.block options scope).source = passage.text := by
  unfold block
  cases h : passage.reading options scope with
  | text => rfl
  | malformed failure => rfl
  | field field => exact (reading_field h).1

theorem passages_allotScopes (scopes : Scopes) (raws : List RawSlide) :
    (allotScopes scopes raws).flatMap (fun slide => slide.passages) =
      raws.flatMap RawSlide.passages := by
  induction raws generalizing scopes with
  | nil => rfl
  | cons raw rest ih => simp [allotScopes, ih]

theorem passages_scopedOutline (source title : String) :
    (scopedOutline source title).flatMap (fun slide => slide.passages) = Passage.ofSource source := by
  rw [scopedOutline, passages_allotScopes, passages_outline]

/-- **No text of a source is lost, doubled or moved.** A lenient run gives a document, and whatever
document a run gives, its blocks stand for the lines of the source that are not blank, each once and
in their order. -/
theorem compile_keeps_every_line (source title : String) (options : FieldOptions) :
    (∃ document, (compile source title options .lenient).result = .ok document) ∧
      ∀ policy document, (compile source title options policy).result = .ok document →
        document.sourceLines = nonBlank (lines source.toList) := by
  refine ⟨(compile_stops options source title).lenient_ok, ?_⟩
  intro policy document h
  rw [compile_eq_whole options h] at h
  cases h
  calc Document.sourceLines ⟨title, (scopedOutline source title).map (ScopedSlide.compiled options)⟩
      = (scopedOutline source title).flatMap fun slide => slide.passages.flatMap fun passage =>
          nonBlank (passage.text.toList.splitOn '\n') := by
        simp [Document.sourceLines, ScopedSlide.compiled, List.flatMap_map, Passage.source_block]
    _ = ((outline source title).flatMap RawSlide.passages).flatMap fun passage =>
          nonBlank (passage.text.toList.splitOn '\n') := by
        rw [← passages_allotScopes {}, List.flatMap_assoc]; rfl
    _ = nonBlank (lines source.toList) := by
        rw [passages_outline, Passage.nonBlank_ofSource]

/-- A fence that is never closed keeps what stands in it. -/
theorem compile_keeps_every_line_open_fence :
    ∃ document,
      (compile "Hello\n\n# Form\n\nname = ___\n```\n\nq = ___\n" "Quiz" {} .strict).result =
          .ok document ∧
        document.sourceLines = ["Hello".toList, "# Form".toList, "name = ___".toList,
          "```".toList, "q = ___".toList] := by
  generalize hr : compile "Hello\n\n# Form\n\nname = ___\n```\n\nq = ___\n" "Quiz" {} .strict = run
  have accepted : run.result.isOk := by rw [← hr]; decide +kernel
  cases h : run.result with
  | ok document =>
    have kept := (compile_keeps_every_line _ _ _).2 .strict document (by rw [hr]; exact h)
    exact ⟨document, rfl, kept.trans (by decide +kernel)⟩
  | error failure =>
    rw [h] at accepted
    cases accepted

end Questionnaire
