import Mathlib.Data.List.Basic
import Mathlib.Data.List.Nodup
import Questionnaire.Proofs.Document.Policy
import Questionnaire.Proofs.Document.Scope

/-! # Ids of fields

The id of a field is the scope of its slide, an underscore, and its code. Scopes are all different and
hold no underscore, so two ids are the same just where slide and code are; and a repeated code on a
slide is just what is reported.
-/

namespace Questionnaire

/-! ## Ids -/

/-- An id can be taken apart again: the scope ends at the first underscore. -/
theorem scope_code_inj {scope scope' code code' : String} (h : '_' ∉ scope.toList)
    (h' : '_' ∉ scope'.toList) :
    scope ++ "_" ++ code = scope' ++ "_" ++ code' ↔ scope = scope' ∧ code = code' := by
  constructor
  · intro he
    have joined : scope.toList ++ '_' :: code.toList = scope'.toList ++ '_' :: code'.toList := by
      simpa using congrArg String.toList he
    have pieces := congrArg (List.splitOn '_') joined
    rw [List.splitOn_append_cons_self_of_not_mem h, List.splitOn_append_cons_self_of_not_mem h']
      at pieces
    have same : scope.toList = scope'.toList := (List.cons.inj pieces).1
    rw [same] at joined
    exact ⟨String.toList_inj.mp same,
      String.toList_inj.mp (List.cons.inj (List.append_cancel_left joined)).2⟩
  · rintro ⟨rfl, rfl⟩
    rfl

/-- Scopes are new, different from each other, and without underscores. -/
theorem allotScopes_scopes (scopes : Scopes) (raws : List RawSlide) :
    ((allotScopes scopes raws).map ScopedSlide.scope).Nodup ∧
      ∀ slide ∈ allotScopes scopes raws, slide.scope ∉ scopes.used ∧ '_' ∉ slide.scope.toList := by
  induction raws generalizing scopes with
  | nil => simp [allotScopes]
  | cons raw rest ih =>
    obtain ⟨distinct, new⟩ := ih (scopes.allot raw.title).2
    obtain ⟨fresh, used⟩ := scopes.allot_fresh raw.title
    rw [used] at new
    rw [allotScopes]
    refine ⟨?_, ?_⟩
    · rw [List.map_cons, List.nodup_cons]
      refine ⟨?_, distinct⟩
      intro hm
      obtain ⟨slide, hs, he⟩ := List.mem_map.mp hm
      exact (new slide hs).1 (he ▸ List.mem_cons_self)
    · intro slide hm
      rcases List.mem_cons.mp hm with rfl | hm
      · exact ⟨fresh, scopes.underscore_not_mem_allot raw.title⟩
      · exact ⟨fun hu => (new slide hm).1 (List.mem_cons_of_mem _ hu), (new slide hm).2⟩

section

variable {options : FieldOptions}

theorem Passage.field?_block {scope : String} {passage : Passage} {field : CompiledField}
    (h : (passage.block options scope).field? = some field) :
    passage.reading options scope = .field field := by
  unfold block at h
  split at h
  · rename_i other read
    rw [read]
    cases h
    rfl
  · cases h
  · cases h

/-- The id of a field on a slide. -/
theorem ScopedSlide.id_of_mem_fields {slide : ScopedSlide} {field : CompiledField}
    (h : field ∈ (slide.compiled options).fields) :
    field.header.id = slide.scope ++ "_" ++ field.header.code := by
  obtain ⟨block, hb, hf⟩ := List.mem_filterMap.mp h
  obtain ⟨passage, -, rfl⟩ := List.mem_map.mp hb
  exact (Passage.reading_field (Passage.field?_block hf)).2

/-! ## Repeated codes -/

def Diagnostic.IsRepeat (report : Diagnostic) : Prop :=
  report.severity = .warning ∧
    ∃ code, report.message = "field code '" ++ code ++ "' is used more than once on this slide"

theorem Diagnostic.unmatched_not_isRepeat (header : FieldHeader) :
    ¬ (Diagnostic.unmatched header).IsRepeat := by
  rintro ⟨-, code, he⟩
  have first := congrArg (fun message => message.toList.head?) he
  simp [unmatched] at first

/-- The field of a block is reported as a repeat just where its code is in use. -/
theorem Passage.repeats_iff (scope : String) (seen : List String) (passage : Passage) :
    (∃ report ∈ passage.reports options scope seen, report.IsRepeat) ↔
      ∃ code ∈ passage.code? options scope, code ∈ seen := by
  unfold reports code? block
  cases passage.reading options scope with
  | text => simp [Block.code?, Block.field?]
  | malformed failure =>
    simp [Block.code?, Block.field?, Diagnostic.IsRepeat, Diagnostic.ofFailure]
  | field field =>
    constructor
    · rintro ⟨report, hm, repeated⟩
      rcases List.mem_append.mp hm with hm | hm
      · split at hm
        · rw [List.mem_singleton.mp hm] at repeated
          exact absurd repeated (Diagnostic.unmatched_not_isRepeat _)
        · cases hm
      · split at hm
        · rename_i used
          exact ⟨field.header.code, rfl, List.contains_iff_mem.mp used⟩
        · cases hm
    · rintro ⟨code, hc, used⟩
      cases hc
      refine ⟨.repeatedCode field.header, List.mem_append_right _ ?_, rfl, field.header.code, rfl⟩
      rw [if_pos (List.contains_iff_mem.mpr used)]
      exact List.mem_singleton_self _

/-- No repeat is reported about passages just where their codes are new and all different. -/
theorem no_repeat_iff_nodup (scope : String) (seen : List String) (passages : List Passage) :
    (∀ report ∈ passageReports options scope seen passages, ¬ report.IsRepeat) ↔
      (passages.filterMap (Passage.code? options scope)).Nodup ∧
        ∀ code ∈ passages.filterMap (Passage.code? options scope), code ∉ seen := by
  induction passages generalizing seen with
  | nil => simp [passageReports]
  | cons passage rest ih =>
    have here : (∀ report ∈ passage.reports options scope seen, ¬ report.IsRepeat) ↔
        ∀ code ∈ passage.code? options scope, code ∉ seen := by
      simpa only [not_exists, not_and] using
        not_congr (@Passage.repeats_iff options scope seen passage)
    rw [passageReports, List.forall_mem_append, ih, here]
    cases taken : passage.code? options scope with
    | none =>
      rw [List.filterMap_cons_none taken]
      simp
    | some code =>
      rw [List.filterMap_cons_some taken]
      generalize rest.filterMap (Passage.code? options scope) = codes
      simp only [Option.toList_some, List.singleton_append, Option.mem_some_iff, forall_eq',
        List.nodup_cons, List.forall_mem_cons]
      constructor
      · rintro ⟨new, distinct, others⟩
        exact ⟨⟨fun hm => others code hm List.mem_cons_self, distinct⟩, new,
          fun c hc hs => others c hc (List.mem_cons_of_mem _ hs)⟩
      · rintro ⟨⟨absent, distinct⟩, new, others⟩
        refine ⟨new, distinct, fun c hc hm => ?_⟩
        rcases List.mem_cons.mp hm with rfl | hm
        · exact absent hc
        · exact others c hc hm

/-! ## Documents -/

/-- The codes of the fields of a slide. -/
theorem ScopedSlide.codes_compiled (slide : ScopedSlide) :
    ((slide.compiled options).fields.map fun field => field.header.code) =
      slide.passages.filterMap (Passage.code? options slide.scope) := by
  simp only [Slide.fields, ScopedSlide.compiled, List.filterMap_map, List.map_filterMap]
  rfl

/-- The ids of a slide are all different just where its codes are. -/
theorem ScopedSlide.ids_nodup_iff (slide : ScopedSlide) :
    ((slide.compiled options).fields.map fun field => field.header.id).Nodup ↔
      ∀ report ∈ slide.reports options, ¬ report.IsRepeat := by
  have ids : ((slide.compiled options).fields.map fun field => field.header.id) =
      ((slide.compiled options).fields.map fun field => field.header.code).map
        fun code => slide.scope ++ "_" ++ code := by
    rw [List.map_map]
    exact List.map_congr_left fun field hm => id_of_mem_fields hm
  rw [ids, List.nodup_map_iff (fun _ _ h => (String.append_right_inj _).mp h), codes_compiled]
  simp [ScopedSlide.reports, no_repeat_iff_nodup]

end

def Document.fieldAt? (document : Document) (slide field : Nat) : Option CompiledField :=
  document.slides[slide]?.bind fun found => found.fields[field]?

section

variable {options : FieldOptions}

/-- The field with a number is looked up on the slide with a number. -/
theorem Document.fieldAt?_eq_some {title : String} {slides : List ScopedSlide} {i k : Nat}
    {field : CompiledField}
    (h : Document.fieldAt? ⟨title, slides.map (ScopedSlide.compiled options)⟩ i k = some field) :
    ∃ slide, slides[i]? = some slide ∧ (slide.compiled options).fields[k]? = some field := by
  obtain ⟨compiled, hs, hf⟩ := Option.bind_eq_some_iff.mp h
  rw [List.getElem?_map] at hs
  obtain ⟨slide, hat, rfl⟩ := Option.map_eq_some_iff.mp hs
  exact ⟨slide, hat, hf⟩

theorem Document.fieldAt?_compiled {title : String} {slides : List ScopedSlide} {i k : Nat}
    {field : CompiledField}
    (h : Document.fieldAt? ⟨title, slides.map (ScopedSlide.compiled options)⟩ i k = some field) :
    ∃ slide, slides[i]? = some slide ∧ field ∈ (slide.compiled options).fields := by
  obtain ⟨slide, hat, hf⟩ := Document.fieldAt?_eq_some h
  exact ⟨slide, hat, List.mem_of_getElem? hf⟩

/-- Fields of slides with different scopes have different ids. -/
theorem ScopedSlide.ids_disjoint {one other : ScopedSlide} (h : '_' ∉ one.scope.toList)
    (h' : '_' ∉ other.scope.toList) (ne : one.scope ≠ other.scope) :
    List.Disjoint ((one.compiled options).fields.map fun field => field.header.id)
      ((other.compiled options).fields.map fun field => field.header.id) := by
  intro id hone hother
  obtain ⟨f, hf, rfl⟩ := List.mem_map.mp hone
  obtain ⟨g, hg, he⟩ := List.mem_map.mp hother
  rw [id_of_mem_fields hf, id_of_mem_fields hg] at he
  exact ne ((scope_code_inj h' h).mp he).1.symm

/-- Of slides with different scopes, a scope names one place. -/
theorem ScopedSlide.scope_eq_iff {slides : List ScopedSlide} {i j : Nat} {one other : ScopedSlide}
    (distinct : (slides.map scope).Nodup) (hone : slides[i]? = some one)
    (hother : slides[j]? = some other) : one.scope = other.scope ↔ i = j := by
  constructor
  · intro same
    have hi : i < (slides.map scope).length := by
      simpa using (List.getElem?_eq_some_iff.mp hone).1
    apply (List.getElem?_inj hi distinct).mp
    rw [List.getElem?_map, List.getElem?_map, hone, hother, Option.map_some, same, Option.map_some]
  · rintro rfl
    rw [hone] at hother
    rw [Option.some.inj hother]

/-- On slides with different scopes, all ids are different just where no code is repeated. -/
theorem Document.ids_nodup_iff {title : String} {slides : List ScopedSlide}
    (distinct : (slides.map ScopedSlide.scope).Nodup)
    (plain : ∀ slide ∈ slides, '_' ∉ slide.scope.toList) :
    ((Document.fields ⟨title, slides.map (ScopedSlide.compiled options)⟩).map
        fun field => field.header.id).Nodup ↔
      ∀ report ∈ slides.flatMap (ScopedSlide.reports options), ¬ report.IsRepeat := by
  have apart : slides.Pairwise fun one other =>
      List.Disjoint ((one.compiled options).fields.map fun field => field.header.id)
        ((other.compiled options).fields.map fun field => field.header.id) :=
    (List.pairwise_map.mp distinct).imp_of_mem fun hone hother ne =>
      ScopedSlide.ids_disjoint (plain _ hone) (plain _ hother) ne
  simp only [Document.fields, List.map_flatMap, List.flatMap_map, List.nodup_flatMap,
    ScopedSlide.ids_nodup_iff]
  constructor
  · rintro ⟨clean, -⟩ report hm
    obtain ⟨slide, hs, hr⟩ := List.mem_flatMap.mp hm
    exact clean slide hs report hr
  · intro clean
    exact ⟨fun slide hs report hr => clean report (List.mem_flatMap.mpr ⟨slide, hs, hr⟩), apart⟩

/-- **Ids of fields are unambiguous.** Two fields of a document have the same id just where they are
on the same slide and have the same code, so that the ids are all different just where no code was
reported as used more than once on its slide. -/
theorem field_id_eq_iff {source title : String} {policy : Policy} {document : Document}
    (h : (compile source title options policy).result = .ok document) :
    (∀ i j k l f g, document.fieldAt? i k = some f → document.fieldAt? j l = some g →
        (f.header.id = g.header.id ↔ i = j ∧ f.header.code = g.header.code)) ∧
      ((document.fields.map fun field => field.header.id).Nodup ↔
        ∀ report ∈ (compile source title options policy).diagnostics, ¬ report.IsRepeat) := by
  have whole := compile_eq_whole options h
  rw [whole] at h ⊢
  cases h
  obtain ⟨distinct, scopes⟩ := allotScopes_scopes {} (outline source title)
  have plain : ∀ slide ∈ scopedOutline source title, '_' ∉ slide.scope.toList :=
    fun slide hm => (scopes slide hm).2
  refine ⟨?_, Document.ids_nodup_iff distinct plain⟩
  intro i j k l f g hf hg
  obtain ⟨one, hone, hf⟩ := Document.fieldAt?_compiled hf
  obtain ⟨other, hother, hg⟩ := Document.fieldAt?_compiled hg
  rw [ScopedSlide.id_of_mem_fields hf, ScopedSlide.id_of_mem_fields hg,
    scope_code_inj (plain one (List.mem_of_getElem? hone))
      (plain other (List.mem_of_getElem? hother)),
    ScopedSlide.scope_eq_iff distinct hone hother]

/-- Headings that repeat, look like a numbered scope or leave nothing to make a scope of. -/
theorem field_id_eq_iff_repeated_headings :
    ∃ document,
      (compile "# A\n\nx_y = ___\n\n# A\n\nx_y = ___\n\n# A 2\n\nx_y = ___\n\n# !\n\nx_y = ___\n"
          "Quiz" {} .strict).result = .ok document ∧
        (document.fields.map fun field => field.header.id).Nodup := by
  generalize hr : compile
    "# A\n\nx_y = ___\n\n# A\n\nx_y = ___\n\n# A 2\n\nx_y = ___\n\n# !\n\nx_y = ___\n" "Quiz" {}
    .strict = run
  have accepted : run.result.isOk := by rw [← hr]; decide +kernel
  have silent : run.diagnostics = [] := by rw [← hr]; decide +kernel
  cases h : run.result with
  | ok document =>
    have distinct := (field_id_eq_iff (by rw [hr]; exact h)).2
    rw [hr, silent] at distinct
    exact ⟨document, rfl, distinct.mpr (by intro report hm; cases hm)⟩
  | error failure =>
    rw [h] at accepted
    cases accepted

end
end Questionnaire
