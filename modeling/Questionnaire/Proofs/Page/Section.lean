import Mathlib.Data.List.Forall2
import Questionnaire.Page.Basic

/-! # What a slide is published as

Texts are held back until a field or the end of the slide comes. A relation says what has to come out:
the longest runs of texts go through Markdown as one source each, and fields stand where they are. It
holds of one string only, and the blocks are written as this string.
-/

namespace Questionnaire

open Html Style

/-- The HTML of blocks, whatever Markdown becomes. A run of texts is as long as it can be, for no text
follows it. -/
inductive Published (markdown : String → String) : List Block → String → Prop
  | nil : Published markdown [] ""
  | texts {run : List String} {rest : List Block} {html : String} (occupied : run ≠ [])
      (ends : ∀ content, rest.head? ≠ some (.text content)) (behind : Published markdown rest html) :
      Published markdown (run.map .text ++ rest) (markdown ("\n\n".intercalate run) ++ html)
  | field {compiled : CompiledField} {rest : List Block} {html : String}
      (behind : Published markdown rest html) :
      Published markdown (.field compiled :: rest) (compiled.markup ++ "\n" ++ html)

section

variable {markdown : String → String}

theorem flushTexts_of_ne_nil {texts : List String} (h : texts ≠ []) :
    flushTexts markdown texts = markdown ("\n\n".intercalate texts) := by
  rw [flushTexts, if_neg (by simpa using h)]

/-- Texts are held back behind those held back before. -/
theorem blocksHtml_texts (run texts : List String) (rest : List Block) :
    blocksHtml markdown texts (run.map .text ++ rest) = blocksHtml markdown (texts ++ run) rest := by
  induction run generalizing texts with
  | nil => rw [List.map_nil, List.nil_append, List.append_nil]
  | cons content run ih =>
    rw [List.map_cons, List.cons_append, blocksHtml, ih, List.append_assoc, List.singleton_append]

/-- What is held back is written before anything but another text. -/
theorem blocksHtml_of_ends (texts : List String) {rest : List Block}
    (ends : ∀ content, rest.head? ≠ some (.text content)) :
    blocksHtml markdown texts rest = flushTexts markdown texts ++ blocksHtml markdown [] rest := by
  cases rest with
  | nil => simp [blocksHtml, flushTexts]
  | cons block rest =>
    cases block with
    | text content => exact absurd rfl (ends content)
    | field compiled => simp [blocksHtml, flushTexts, String.append_assoc]

/-- Texts that were held back come before what is published behind them. -/
theorem Published.flush (texts : List String) {rest : List Block} {html : String}
    (ends : ∀ content, rest.head? ≠ some (.text content)) (behind : Published markdown rest html) :
    Published markdown (texts.map .text ++ rest) (flushTexts markdown texts ++ html) := by
  by_cases occupied : texts = []
  · rw [occupied, List.map_nil, List.nil_append]
    simpa [flushTexts] using behind
  · rw [flushTexts_of_ne_nil occupied]
    exact .texts occupied ends behind

/-- The texts held back and the blocks behind them are written as what they are published as. -/
theorem published_blocksHtml (texts : List String) (blocks : List Block) :
    Published markdown (texts.map .text ++ blocks) (blocksHtml markdown texts blocks) := by
  induction blocks generalizing texts with
  | nil =>
    rw [blocksHtml_of_ends texts (by simp)]
    exact .flush texts (by simp) .nil
  | cons block rest ih =>
    cases block with
    | text content =>
      have longer := ih (texts ++ [content])
      rw [List.map_append, List.append_assoc] at longer
      exact longer
    | field compiled =>
      rw [blocksHtml_of_ends texts (by simp)]
      exact .flush texts (by simp) (.field (ih []))

theorem published_iff {blocks : List Block} {html : String} :
    Published markdown blocks html ↔ html = blocksHtml markdown [] blocks := by
  constructor
  · intro h
    induction h with
    | nil => rfl
    | @texts run rest html occupied ends behind ih =>
      rw [blocksHtml_texts, List.nil_append, blocksHtml_of_ends run ends,
        flushTexts_of_ne_nil occupied, ih]
    | field behind ih => simp [blocksHtml, flushTexts, ih]
  · intro h
    rw [h]
    exact published_blocksHtml [] blocks

end

namespace Slide

/-- The section of a slide: its blocks, inside a form if one of them is a field. -/
def PublishedAs (markdown : String → String) (form : FormOptions) (slide : Slide) (html : String) :
    Prop :=
  ∃ content, Published markdown slide.blocks content ∧
    html = "<section class=\"qf-slide\" data-slide=\"" ++ escape slide.scope ++ "\">\n" ++
      (if ∃ block ∈ slide.blocks, block.field?.isSome then wrapForm slide.scope content form
        else content) ++ "</section>\n"

theorem hasFields_iff (slide : Slide) :
    slide.hasFields = true ↔ ∃ block ∈ slide.blocks, block.field?.isSome := by
  simp [hasFields, fields, Option.isSome_iff_ne_none]

theorem sectionTag (scope : String) :
    "<section" ++ pageAttribute "class" slideClass ++ pageAttribute "data-slide" scope ++ ">\n" =
      "<section class=\"qf-slide\" data-slide=\"" ++ escape scope ++ "\">\n" := by
  have classes : pageAttribute "class" slideClass = " class=\"qf-slide\"" := by decide
  rw [classes, pageAttribute]
  apply String.toList_inj.mp
  simp

theorem publishedAs_iff (markdown : String → String) (form : FormOptions) (slide : Slide)
    (html : String) :
    slide.PublishedAs markdown form html ↔ html = sectionHtml markdown form slide := by
  have inner : ∀ content, (if ∃ block ∈ slide.blocks, block.field?.isSome then
      wrapForm slide.scope content form else content) =
        if slide.hasFields then wrapForm slide.scope content form else content := by
    intro content
    exact if_congr slide.hasFields_iff.symm rfl rfl
  unfold PublishedAs sectionHtml
  simp only [published_iff, exists_eq_left, inner, sectionTag]

end Slide

/-- **A slide is published in source order.** Its section holds all that its blocks are published as,
runs of texts and fields one behind the other, inside a form if there is a field; and the sections of
a page are those of its slides, in the order of the document. -/
theorem slides_published_in_order (markdown : String → String) (form : FormOptions) :
    (∀ (slide : Slide) (html : String),
      slide.PublishedAs markdown form html ↔ html = sectionHtml markdown form slide) ∧
    (∀ (document : Document) (customCss : Option String), ∃ sections,
      List.Forall₂ (Slide.PublishedAs markdown form) document.slides sections ∧
      pageHtml markdown ⟨form, customCss⟩ document =
        pageHead document.title customCss ++ String.join sections ++ "</div>\n</body>\n</html>") := by
  constructor
  · exact Slide.publishedAs_iff markdown form
  · intro document customCss
    refine ⟨document.slides.map (sectionHtml markdown form), ?_, rfl⟩
    rw [List.forall₂_map_right_iff, List.forall₂_same]
    intro slide _
    exact (slide.publishedAs_iff markdown form _).mpr rfl

end Questionnaire
