import Questionnaire.Proofs.Document.Reading

/-! # The policies agree up to the first error

A strict and a lenient run do the same until a malformed field ends the strict one. `StopsAtFirst`
relates two such runs of one part of a document, and it passes from the parts to the whole.
-/

namespace Questionnaire

def Harmless (reports : List Diagnostic) : Prop := ∀ report ∈ reports, report.severity ≠ .error

theorem Harmless.nil : Harmless [] := by intro report hm; cases hm

theorem Harmless.append {before after : List Diagnostic} (hb : Harmless before)
    (ha : Harmless after) : Harmless (before ++ after) := by
  intro report hm
  rcases List.mem_append.mp hm with h | h
  · exact hb report h
  · exact ha report h

/-- How a strict run goes beside a lenient one, where the failure is that of the first malformed
field. Without one both runs are the same. Otherwise the strict run ends with the failure, right
after the report of it. -/
inductive StopsAtFirst {α : Type} : Option Failure → Reporting α → Reporting α → Prop
  | through {value reports} (harmless : Harmless reports) :
      StopsAtFirst none ⟨.ok value, reports⟩ ⟨.ok value, reports⟩
  | stopped {field reason value before after} (harmless : Harmless before) :
      StopsAtFirst (some (.malformedField field reason))
        ⟨.error (.malformedField field reason),
          before ++ [⟨.error, field, (Failure.malformedField field reason).message⟩]⟩
        ⟨.ok value, before ++ ⟨.error, field, (Failure.malformedField field reason).message⟩ :: after⟩

namespace StopsAtFirst

variable {α β : Type} {first later : Option Failure} {strict lenient : Reporting α}

theorem pure (value : α) : StopsAtFirst none (Pure.pure value) (Pure.pure value) :=
  through .nil

/-- A lenient run is not ended by an error. -/
theorem lenient_ok (h : StopsAtFirst first strict lenient) : ∃ value, lenient.result = .ok value := by
  cases h with
  | through _ => exact ⟨_, rfl⟩
  | stopped _ => exact ⟨_, rfl⟩

/-- Of two parts, the first malformed field of the first one counts before that of the second. -/
theorem bind {f g : α → Reporting β} (h : StopsAtFirst first strict lenient)
    (next : ∀ value, StopsAtFirst later (f value) (g value)) :
    StopsAtFirst (first.or later) (strict >>= f) (lenient >>= g) := by
  cases h with
  | @through value reports harmless =>
    rw [Reporting.ok_bind, Reporting.ok_bind, Option.none_or]
    have hv := next value
    generalize f value = s at hv ⊢
    generalize g value = l at hv ⊢
    cases hv with
    | through harmless' => exact through (harmless.append harmless')
    | stopped harmless' =>
      simpa only [List.append_assoc] using StopsAtFirst.stopped (harmless.append harmless')
  | @stopped field reason value before after harmless =>
    obtain ⟨result, hr⟩ := (next value).lenient_ok
    rw [Reporting.ok_bind, Reporting.error_bind, Option.some_or, hr]
    simpa only [List.append_assoc, List.cons_append] using StopsAtFirst.stopped harmless

end StopsAtFirst

/-! ## Passages, slides and documents -/

/-- A field is reported about with warnings alone. -/
theorem CompiledField.reports_harmless (seen : List String) (field : CompiledField) :
    Harmless (field.reports seen) := by
  intro report hm
  rcases List.mem_append.mp hm with h | h
  · split at h
    · rw [List.mem_singleton.mp h]; simp [Diagnostic.unmatched]
    · cases h
  · split at h
    · rw [List.mem_singleton.mp h]; simp [Diagnostic.repeatedCode]
    · cases h

/-- What is found in the head of a list comes before what is found behind it. -/
theorem findSome?_cons_eq_or {α β : Type} (f : α → Option β) (a : α) (rest : List α) :
    (a :: rest).findSome? f = (f a).or (rest.findSome? f) := by
  rw [List.findSome?_cons]
  cases f a <;> rfl

section

variable (options : FieldOptions)

theorem compilePassage_stops (scope : String) (seen : List String) (passage : Passage) :
    StopsAtFirst (passage.fault? options scope)
      (compilePassage scope options .strict seen passage)
      (compilePassage scope options .lenient seen passage) := by
  rw [compilePassage_eq, compilePassage_eq]
  unfold Passage.fault? Passage.block Passage.reports
  cases h : passage.reading options scope with
  | text => exact .pure _
  | field field => exact .through (field.reports_harmless seen)
  | malformed failure =>
    obtain ⟨field, reason, rfl⟩ := Passage.reading_malformed h
    exact .stopped .nil

theorem compilePassages_stops (scope : String) (seen : List String) (passages : List Passage) :
    StopsAtFirst (passages.findSome? (Passage.fault? options scope))
      (compilePassages scope options .strict seen passages)
      (compilePassages scope options .lenient seen passages) := by
  induction passages generalizing seen with
  | nil => exact .pure _
  | cons passage rest ih =>
    have step := (compilePassage_stops options scope seen passage).bind fun block =>
      (ih (block.code?.toList ++ seen)).bind fun blocks => .pure (block :: blocks)
    rw [Option.or_none] at step
    rw [findSome?_cons_eq_or]
    exact step

theorem compileSlides_stops (scopes : Scopes) (raws : List RawSlide) :
    StopsAtFirst ((allotScopes scopes raws).findSome? (ScopedSlide.fault? options))
      (compileSlides options .strict scopes raws)
      (compileSlides options .lenient scopes raws) := by
  induction raws generalizing scopes with
  | nil => exact .pure _
  | cons raw rest ih =>
    have step := (compilePassages_stops options (scopes.allot raw.title).1 [] raw.passages).bind
      fun blocks => (ih (scopes.allot raw.title).2).bind fun slides =>
        .pure (⟨raw.title, (scopes.allot raw.title).1, blocks⟩ :: slides)
    rw [Option.or_none] at step
    rw [allotScopes, findSome?_cons_eq_or]
    exact step

def firstFault? (source title : String) : Option Failure :=
  (scopedOutline source title).findSome? (ScopedSlide.fault? options)

theorem compile_stops (source title : String) :
    StopsAtFirst (firstFault? options source title) (compile source title options .strict)
      (compile source title options .lenient) := by
  have step := (compileSlides_stops options {} (outline source title)).bind fun slides =>
    .pure (⟨title, slides⟩ : Document)
  rw [Option.or_none] at step
  exact step

/-- Whatever the policy, a document is the whole of its source, with all reports. -/
theorem compile_eq_whole {source title : String} {policy : Policy} {document : Document}
    (h : (compile source title options policy).result = .ok document) :
    compile source title options policy = wholeCompilation options source title := by
  rw [← compile_lenient]
  cases policy with
  | lenient => rfl
  | strict =>
    have hs := compile_stops options source title
    generalize firstFault? options source title = fault,
      compile source title options .strict = strict,
      compile source title options .lenient = lenient at h hs ⊢
    cases hs with
    | through _ => rfl
    | stopped _ => cases h

/-- **The policies agree up to the first error.** A lenient run gives a document. A strict run gives
one just where the lenient run reports no error, and then they do not differ. Otherwise the strict
run ends with the failure of the first malformed passage, and it has made the reports that the
lenient run makes up to and with the one of that failure. -/
theorem strict_agrees_up_to_first_fault (source title : String) :
    let strict := compile source title options .strict
    let lenient := compile source title options .lenient
    (∃ document, lenient.result = .ok document) ∧
      ((∃ document, strict.result = .ok document) ↔ Harmless lenient.diagnostics) ∧
      (((∃ document, strict.result = .ok document) ∧ strict = lenient) ∨
        ∃ field reason before after,
          firstFault? options source title = some (.malformedField field reason) ∧
          strict.result = .error (.malformedField field reason) ∧
          Harmless before ∧
          strict.diagnostics =
            before ++ [⟨.error, field, (Failure.malformedField field reason).message⟩] ∧
          lenient.diagnostics =
            before ++ ⟨.error, field, (Failure.malformedField field reason).message⟩ :: after) := by
  intro strict lenient
  have hs : StopsAtFirst (firstFault? options source title) strict lenient :=
    compile_stops options source title
  refine ⟨hs.lenient_ok, ?_, ?_⟩
  · generalize firstFault? options source title = fault, strict = s, lenient = l at hs ⊢
    cases hs with
    | through harmless => exact ⟨fun _ => harmless, fun _ => ⟨_, rfl⟩⟩
    | stopped _ =>
      constructor
      · rintro ⟨document, h⟩; cases h
      · intro harmless
        exact absurd rfl (harmless _ (List.mem_append_right _ List.mem_cons_self))
  · generalize firstFault? options source title = fault, strict = s, lenient = l at hs ⊢
    cases hs with
    | through _ => exact .inl ⟨⟨_, rfl⟩, rfl⟩
    | stopped harmless => exact .inr ⟨_, _, _, _, rfl, rfl, harmless, rfl, rfl⟩

end
end Questionnaire
