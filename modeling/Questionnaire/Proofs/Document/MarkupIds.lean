import Questionnaire.Proofs.Document.FieldIds
import Questionnaire.Proofs.Field.HeaderLine
import Questionnaire.Proofs.Field.Ids

/-! # Ids in the markup of a document

The ids of two fields are not always apart: a code may hold underscores, so the id of a choice can be
that of a field whose code goes on with the value of the choice. Nothing else makes two ids the same,
since the ending of a control starts with a character that no code has.
-/

namespace Questionnaire

open Html Text

theorem Element.mem_idEndings {element : Element} {ending : String} :
    ending ∈ element.idEndings ↔
      ending = "" ∨ (element.isControl = true ∧ ending = "-input") ∨
        ∃ value ∈ element.buttonValues, ending = "_" ++ value := by
  unfold idEndings
  cases element.isControl <;> simp [eq_comm]

namespace CompiledField

def ids (field : CompiledField) : List String := idsIn field.markup

/-- The id of a choice of `f` is one of `g`: the code of `g` is that of `f`, an underscore and some
rest, and the rest with an ending of `g` is the value of the choice. -/
def Covers (f g : CompiledField) : Prop :=
  ∃ rest, g.header.code = f.header.code ++ "_" ++ rest ∧
    ∃ ending ∈ g.element.idEndings, rest ++ ending ∈ f.element.buttonValues

variable {f g : CompiledField}

theorem covers_of_endings {more : List Char} {ending ending' : String}
    (plain : '-' ∉ g.header.code.toList) (ne : f.header.code ≠ g.header.code)
    (hf : ending ∈ f.element.idEndings) (hg : ending' ∈ g.element.idEndings)
    (code : g.header.code.toList = f.header.code.toList ++ more)
    (through : ending.toList = more ++ ending'.toList) : f.Covers g := by
  -- the ending of `f` goes through what the code of `g` has more than that of `f`
  cases more with
  | nil => exact absurd (String.toList_inj.mp (by simpa using code.symm)) ne
  | cons first more =>
    rcases Element.mem_idEndings.mp hf with rfl | ⟨-, rfl⟩ | ⟨value, hv, rfl⟩
    · cases through
    · have dash : first = '-' := (List.cons.inj through).1.symm
      exact absurd (by simp [code, dash]) plain
    · obtain ⟨rfl, whole⟩ := List.cons.inj (show '_' :: value.toList = _ by simpa using through)
      refine ⟨String.ofList more, ?_, ending', hg, ?_⟩
      · apply String.toList_inj.mp
        simp [code]
      · have same : String.ofList more ++ ending' = value := by
          apply String.toList_inj.mp
          simp [whole]
        rwa [same]

theorem Covers.endings (h : f.Covers g) :
    ∃ ending ∈ f.element.idEndings, ∃ ending' ∈ g.element.idEndings,
      f.header.code ++ ending = g.header.code ++ ending' := by
  obtain ⟨rest, code, ending', hg, hv⟩ := h
  refine ⟨"_" ++ (rest ++ ending'), ?_, ending', hg, ?_⟩
  · exact Element.mem_idEndings.mpr (.inr (.inr ⟨_, hv, rfl⟩))
  · rw [code]
    simp only [String.append_assoc]

/-- Two different codes meet only where a choice of one field covers the other. -/
theorem endings_meet_iff (plain : '-' ∉ f.header.code.toList) (plain' : '-' ∉ g.header.code.toList)
    (ne : f.header.code ≠ g.header.code) :
    (∃ ending ∈ f.element.idEndings, ∃ ending' ∈ g.element.idEndings,
        f.header.code ++ ending = g.header.code ++ ending') ↔ f.Covers g ∨ g.Covers f := by
  constructor
  · rintro ⟨ending, hf, ending', hg, he⟩
    have joined : f.header.code.toList ++ ending.toList = g.header.code.toList ++ ending'.toList := by
      simpa using congrArg String.toList he
    rcases List.append_eq_append_iff.mp joined with ⟨more, code, through⟩ | ⟨more, code, through⟩
    · exact .inl (covers_of_endings plain' ne hf hg code through)
    · exact .inr (covers_of_endings plain ne.symm hg hf code through)
  · rintro (h | h)
    · exact h.endings
    · obtain ⟨ending', hg, ending, hf, he⟩ := h.endings
      exact ⟨ending, hf, ending', hg, he.symm⟩

/-- On a slide, ids with endings meet just where codes with endings do; on two slides they never
meet. -/
theorem disjoint_ids_iff {scope scope' : String} (free : '_' ∉ scope.toList)
    (free' : '_' ∉ scope'.toList)
    (hf : f.ids = f.element.idEndings.map (scope ++ "_" ++ f.header.code ++ ·))
    (hg : g.ids = g.element.idEndings.map (scope' ++ "_" ++ g.header.code ++ ·)) :
    List.Disjoint f.ids g.ids ↔
      ¬ (scope = scope' ∧ ∃ ending ∈ f.element.idEndings, ∃ ending' ∈ g.element.idEndings,
        f.header.code ++ ending = g.header.code ++ ending') := by
  have meet : ∀ ending ending' : String,
      scope ++ "_" ++ f.header.code ++ ending = scope' ++ "_" ++ g.header.code ++ ending' ↔
        scope = scope' ∧ f.header.code ++ ending = g.header.code ++ ending' := by
    intro ending ending'
    rw [← scope_code_inj free free', ← String.append_assoc, ← String.append_assoc]
  rw [hf, hg]
  constructor
  · rintro apart ⟨same, ending, hm, ending', hm', he⟩
    apply apart (List.mem_map_of_mem hm)
    rw [(meet ending ending').mpr ⟨same, he⟩]
    exact List.mem_map_of_mem hm'
  · intro never id hid hid'
    obtain ⟨ending, hm, rfl⟩ := List.mem_map.mp hid
    obtain ⟨ending', hm', he⟩ := List.mem_map.mp hid'
    obtain ⟨same, codes⟩ := (meet ending ending').mp he.symm
    exact never ⟨same, ending, hm, ending', hm', codes⟩

end CompiledField

section

variable {options : FieldOptions}

/-- What is known of the markup of a field on a slide: its ids, and that no code holds a dash. -/
theorem ScopedSlide.ids_of_mem_fields {slide : ScopedSlide} {field : CompiledField}
    (h : field ∈ (slide.compiled options).fields) :
    field.ids = field.element.idEndings.map (field.header.id ++ ·) ∧
      '-' ∉ field.header.code.toList := by
  obtain ⟨block, hb, hf⟩ := List.mem_filterMap.mp h
  obtain ⟨passage, -, rfl⟩ := List.mem_map.mp hb
  obtain ⟨body, read, -, drawn⟩ := Passage.of_reading_field (Passage.field?_block hf)
  refine ⟨by rw [CompiledField.ids, drawn, idsIn_renderField], fun dash => ?_⟩
  have word := (FieldHeader.code_of_readBlock? read).2 '-' dash
  exact absurd word (by decide)

theorem ScopedSlide.code_ne_of_no_repeat {slide : ScopedSlide} {k l : Nat} {f g : CompiledField}
    (clean : ∀ report ∈ slide.reports options, ¬ report.IsRepeat)
    (hf : (slide.compiled options).fields[k]? = some f)
    (hg : (slide.compiled options).fields[l]? = some g) (ne : k ≠ l) :
    f.header.code ≠ g.header.code := by
  intro same
  have distinct := slide.ids_nodup_iff.mpr clean
  apply ne
  apply (List.getElem?_inj _ distinct).mp
  · rw [List.getElem?_map, List.getElem?_map, hf, hg, Option.map_some, Option.map_some,
      ScopedSlide.id_of_mem_fields (List.mem_of_getElem? hf),
      ScopedSlide.id_of_mem_fields (List.mem_of_getElem? hg), same]
  · simpa using (List.getElem?_eq_some_iff.mp hf).1

theorem Document.ids_of_fieldAt? {source title : String} {policy : Policy} {document : Document}
    (h : (compile source title options policy).result = .ok document) {i k : Nat}
    {field : CompiledField} (hf : document.fieldAt? i k = some field) :
    field.ids = field.element.idEndings.map (field.header.id ++ ·) := by
  rw [compile_eq_whole options h] at h
  cases h
  obtain ⟨slide, -, hm⟩ := Document.fieldAt?_compiled hf
  exact (ScopedSlide.ids_of_mem_fields hm).1

/-- **Ids of different fields are apart unless a choice covers a code.** In a document in which no
code was reported as used more than once on its slide, two fields have an id in common just where
they are on the same slide and a choice of one of them has an id of the other. -/
theorem ids_disjoint_iff_not_covers {source title : String} {policy : Policy} {document : Document}
    (h : (compile source title options policy).result = .ok document)
    (clean : ∀ report ∈ (compile source title options policy).diagnostics, ¬ report.IsRepeat) :
    ∀ i j k l f g, document.fieldAt? i k = some f → document.fieldAt? j l = some g →
      (i, k) ≠ (j, l) →
      (List.Disjoint f.ids g.ids ↔ ¬ (i = j ∧ (f.Covers g ∨ g.Covers f))) := by
  have whole := compile_eq_whole options h
  rw [whole] at h clean
  cases h
  obtain ⟨distinct, scopes⟩ := allotScopes_scopes {} (outline source title)
  intro i j k l f g hf hg ne
  obtain ⟨one, hone, hf⟩ := Document.fieldAt?_eq_some hf
  obtain ⟨other, hother, hg⟩ := Document.fieldAt?_eq_some hg
  have onePlace := ScopedSlide.scope_eq_iff distinct hone hother
  have oneIn := List.mem_of_getElem? hone
  obtain ⟨ids, dash⟩ := ScopedSlide.ids_of_mem_fields (List.mem_of_getElem? hf)
  obtain ⟨ids', dash'⟩ := ScopedSlide.ids_of_mem_fields (List.mem_of_getElem? hg)
  rw [ScopedSlide.id_of_mem_fields (List.mem_of_getElem? hf)] at ids
  rw [ScopedSlide.id_of_mem_fields (List.mem_of_getElem? hg)] at ids'
  rw [CompiledField.disjoint_ids_iff (scopes one oneIn).2
    (scopes other (List.mem_of_getElem? hother)).2 ids ids', onePlace, not_iff_not]
  apply and_congr_right
  rintro rfl
  have same : one = other := Option.some.inj (hone.symm.trans hother)
  subst same
  have silent : ∀ report ∈ one.reports options, ¬ report.IsRepeat :=
    fun report hm => clean report (List.mem_flatMap.mpr ⟨one, oneIn, hm⟩)
  have elsewhere : k ≠ l := fun he => ne (by rw [he])
  exact CompiledField.endings_meet_iff dash dash'
    (ScopedSlide.code_ne_of_no_repeat silent hf hg elsewhere)

/-- The same two fields on two slides. -/
theorem ids_disjoint_iff_not_covers_two_slides :
    ∃ document f g,
      (compile "a_b = ___\n\n# Quiz\n\na = (x) b\n" "Quiz" {} .strict).result = .ok document ∧
        document.fieldAt? 0 0 = some f ∧ document.fieldAt? 1 0 = some g ∧
        List.Disjoint f.ids g.ids := by
  generalize hr : compile "a_b = ___\n\n# Quiz\n\na = (x) b\n" "Quiz" {} .strict = run
  obtain ⟨silent, first, second⟩ : run.diagnostics = [] ∧
      (run.result.toOption.bind fun document => document.fieldAt? 0 0).isSome ∧
      (run.result.toOption.bind fun document => document.fieldAt? 1 0).isSome := by
    rw [← hr]
    decide +kernel
  cases h : run.result with
  | ok document =>
    rw [h] at first second
    obtain ⟨f, hf⟩ := Option.isSome_iff_exists.mp first
    obtain ⟨g, hg⟩ := Option.isSome_iff_exists.mp second
    have apart := ids_disjoint_iff_not_covers (by rw [hr]; exact h)
      (by rw [hr, silent]; intro report hm; cases hm) 0 1 0 0 f g hf hg (by decide)
    exact ⟨document, f, g, rfl, hf, hg, apart.mpr (by rintro ⟨same, -⟩; cases same)⟩
  | error failure =>
    rw [h] at first
    cases first

/-- The id of the choice `b` of a field `a` is that of the field `a_b` on its slide, and nothing is
reported. -/
theorem ids_meet_behind_underscore :
    ∃ document f g,
      (compile "a_b = ___\n\na = (x) b\n" "Quiz" {} .strict).result = .ok document ∧
        (compile "a_b = ___\n\na = (x) b\n" "Quiz" {} .strict).diagnostics = [] ∧
        (∀ field ∈ document.fields, (field.element.choices.map Choice.value).Nodup) ∧
        document.fieldAt? 0 0 = some f ∧ document.fieldAt? 0 1 = some g ∧
        "quiz_a_b" ∈ f.ids ∧ "quiz_a_b" ∈ g.ids := by
  generalize hr : compile "a_b = ___\n\na = (x) b\n" "Quiz" {} .strict = run
  obtain ⟨silent, distinct, first, second⟩ : run.diagnostics = [] ∧
      (run.result.toOption.all fun document => document.fields.all fun field =>
        (field.element.choices.map Choice.value).Nodup) = true ∧
      ((run.result.toOption.bind fun document => document.fieldAt? 0 0).map fun field =>
        (field.header.id, field.element.idEndings)) = some ("quiz_a_b", ["", "-input"]) ∧
      ((run.result.toOption.bind fun document => document.fieldAt? 0 1).map fun field =>
        (field.header.id, field.element.idEndings)) = some ("quiz_a", ["", "_b"]) := by
    rw [← hr]
    decide +kernel
  cases h : run.result with
  | ok document =>
    rw [h] at first second distinct
    obtain ⟨f, hf, endings⟩ := Option.map_eq_some_iff.mp first
    obtain ⟨g, hg, endings'⟩ := Option.map_eq_some_iff.mp second
    obtain ⟨id, ends⟩ := Prod.mk.inj endings
    obtain ⟨id', ends'⟩ := Prod.mk.inj endings'
    have result : (compile "a_b = ___\n\na = (x) b\n" "Quiz" {} .strict).result = .ok document := by
      rw [hr, h]
    refine ⟨document, f, g, rfl, silent, ?_, hf, hg, ?_, ?_⟩
    · intro field hm
      exact of_decide_eq_true (List.all_eq_true.mp distinct field hm)
    · rw [Document.ids_of_fieldAt? result hf, id, ends]
      decide
    · rw [Document.ids_of_fieldAt? result hg, id', ends']
      decide
  | error failure =>
    rw [h] at first
    cases first

end
end Questionnaire
