import Questionnaire.Format.Registry
import Mathlib.Data.List.Nodup
import Mathlib.Data.List.Sort

/-! # A registry answers by the last registrations

What a registration changes is the format of one name, and the names always ascend. So a registry is
known from the format of every name, which is the one registered last under it: the list, the errors
and the format of a file follow, and only the order of registrations under one name matters.
-/

namespace Questionnaire.Registry

/-! ## One registration -/

theorem find?_cons_of_name (first : Format) (name : String) (rest : List Format) :
    ((first :: rest).find? fun other => other.name = name) =
      if first.name = name then some first else rest.find? fun other => other.name = name := by
  rw [List.find?_cons]
  by_cases same : first.name = name <;> simp [same]

theorem find?_insertByName (format : Format) (name : String) (formats : List Format) :
    ((insertByName format formats).find? fun other => other.name = name) =
      if format.name = name then some format
      else formats.find? fun other => other.name = name := by
  induction formats with
  | nil => exact find?_cons_of_name format name []
  | cons first rest ih =>
    rw [insertByName]
    split
    · rw [find?_cons_of_name]
    · rename_i notBefore
      split
      · rename_i behind
        rw [find?_cons_of_name, ih, find?_cons_of_name]
        by_cases same : format.name = name
        · have apart : first.name ≠ name := by
            rintro rfl
            exact String.lt_irrefl _ (same ▸ behind)
          simp [same, apart]
        · simp [same]
      · rename_i notBehind
        have same : first.name = format.name :=
          String.le_antisymm (String.not_lt.mp notBefore) (String.not_lt.mp notBehind)
        rw [find?_cons_of_name, find?_cons_of_name, same]
        split <;> rfl

@[simp]
theorem get?_register (registry : Registry) (format : Format) (name : String) :
    (registry.register format).get? name =
      if format.name = name then some format else registry.get? name :=
  find?_insertByName format name registry.formats

theorem mem_insertByName {format other : Format} {formats : List Format}
    (h : other ∈ insertByName format formats) : other = format ∨ other ∈ formats := by
  induction formats with
  | nil => exact .inl (List.mem_singleton.mp h)
  | cons first rest ih =>
    rw [insertByName] at h
    split at h
    · exact List.mem_cons.mp h
    · split at h
      · rcases List.mem_cons.mp h with rfl | later
        · exact .inr List.mem_cons_self
        · exact (ih later).imp_right (List.mem_cons_of_mem first)
      · exact (List.mem_cons.mp h).imp_right (List.mem_cons_of_mem first)

def Ascending (registry : Registry) : Prop :=
  registry.formats.Pairwise fun one other => one.name < other.name

theorem ascending_insertByName {formats : List Format}
    (h : formats.Pairwise fun one other => one.name < other.name) (format : Format) :
    (insertByName format formats).Pairwise fun one other => one.name < other.name := by
  induction formats with
  | nil => exact List.pairwise_singleton _ _
  | cons first rest ih =>
    obtain ⟨above, others⟩ := List.pairwise_cons.mp h
    rw [insertByName]
    split
    · rename_i before
      refine List.pairwise_cons.mpr ⟨fun other hm => ?_, h⟩
      rcases List.mem_cons.mp hm with rfl | later
      · exact before
      · exact String.lt_trans before (above other later)
    · rename_i notBefore
      split
      · rename_i behind
        refine List.pairwise_cons.mpr ⟨fun other hm => ?_, ih others⟩
        rcases mem_insertByName hm with rfl | later
        · exact behind
        · exact above other later
      · rename_i notBehind
        have same : first.name = format.name :=
          String.le_antisymm (String.not_lt.mp notBefore) (String.not_lt.mp notBehind)
        exact List.pairwise_cons.mpr ⟨fun other later => same ▸ above other later, others⟩

/-! ## What an ascending registry says -/

section

variable {registry : Registry} {format other : Format} {name : String}

theorem name_of_get? (h : registry.get? name = some format) : format.name = name := by
  simpa using List.find?_some h

theorem mem_of_get? (h : registry.get? name = some format) : format ∈ registry.formats :=
  List.mem_of_find?_eq_some h

theorem mem_names_iff : name ∈ registry.names ↔ (registry.get? name).isSome = true := by
  rw [names, get?, List.mem_map, List.find?_isSome]
  simp

namespace Ascending

theorem empty : Registry.empty.Ascending := List.Pairwise.nil

theorem register (h : registry.Ascending) (format : Format) :
    (registry.register format).Ascending :=
  ascending_insertByName h format

theorem names (h : registry.Ascending) : registry.names.Pairwise (· < ·) :=
  List.pairwise_map.mpr h

theorem eq_of_name_eq (h : registry.Ascending) (one : format ∈ registry.formats)
    (two : other ∈ registry.formats) (same : format.name = other.name) : format = other := by
  have distinct : (registry.formats.map Format.name).Nodup := by
    refine h.names.imp ?_
    rintro name _ below rfl
    exact String.lt_irrefl name below
  exact List.inj_on_of_nodup_map distinct one two same

theorem mem_iff_get? (h : registry.Ascending) :
    format ∈ registry.formats ↔ registry.get? format.name = some format := by
  refine ⟨fun hm => ?_, mem_of_get?⟩
  have known : (registry.get? format.name).isSome = true :=
    mem_names_iff.mp (List.mem_map_of_mem hm)
  obtain ⟨found, hf⟩ := Option.isSome_iff_exists.mp known
  rw [hf, h.eq_of_name_eq (mem_of_get? hf) hm (name_of_get? hf)]

/-- The formats of all names make up the registry. -/
theorem ext {two : Registry} (h : registry.Ascending) (h' : two.Ascending)
    (same : ∀ name, registry.get? name = two.get? name) : registry = two := by
  have irrefl : Std.Irrefl fun one other : Format => one.name < other.name :=
    ⟨fun one => String.lt_irrefl one.name⟩
  have antisymm : Std.Antisymm fun one other : Format => one.name < other.name :=
    ⟨fun one other below above => absurd above (String.lt_asymm below)⟩
  have members : ∀ format, format ∈ registry.formats ↔ format ∈ two.formats := by
    intro format
    rw [h.mem_iff_get?, h'.mem_iff_get?, same]
  cases registry
  cases two
  exact congrArg Registry.mk (List.Pairwise.eq_of_mem_iff h h' members)

end Ascending

/-! ## Any number of registrations -/

/-- A format that is registered later goes before the earlier ones. -/
theorem get?_foldl (formats : List Format) (registry : Registry) (name : String) :
    (formats.foldl register registry).get? name =
      ((formats.reverse.find? fun format => format.name = name) <|> registry.get? name) := by
  induction formats generalizing registry with
  | nil => simp
  | cons format formats ih =>
    rw [List.foldl_cons, ih, get?_register, List.reverse_cons, List.find?_append,
      find?_cons_of_name]
    split <;> simp

theorem Ascending.foldl (h : registry.Ascending) (formats : List Format) :
    (formats.foldl Registry.register registry).Ascending := by
  induction formats generalizing registry with
  | nil => exact h
  | cons format formats ih => exact ih (h.register format)

def HasExtension (format? : Option Format) (extension : String) : Prop :=
  ∃ format, format? = some format ∧ extension ∈ format.extensions

/-- The first format with an extension is the least one, as names ascend. -/
theorem Ascending.of_find?_extension (h : registry.Ascending) {extension : String}
    (found : (registry.formats.find? fun format => format.extensions.contains extension) =
      some format) :
    HasExtension (registry.get? format.name) extension ∧
      ∀ other, HasExtension (registry.get? other) extension → format.name ≤ other := by
  obtain ⟨lists, front, back, he, passed⟩ := List.find?_eq_some_iff_append.mp found
  have known : format ∈ registry.formats := List.mem_of_find?_eq_some found
  refine ⟨⟨format, h.mem_iff_get?.mp known, List.contains_iff_mem.mp lists⟩, ?_⟩
  rintro name ⟨other, hf, listed⟩
  obtain rfl := name_of_get? hf
  have hm : other ∈ front ++ format :: back := he ▸ mem_of_get? hf
  rcases List.mem_append.mp hm with before | behind
  · have refused := passed other before
    simp [listed] at refused
  · rcases List.mem_cons.mp behind with rfl | later
    · exact String.le_refl _
    · have ascending : (front ++ format :: back).Pairwise fun one other => one.name < other.name :=
        he ▸ h
      have above := (List.pairwise_cons.mp (List.pairwise_append.mp ascending).2.1).1 other later
      exact String.not_lt.mp (String.lt_asymm above)

theorem Ascending.find?_extension_eq_none_iff (h : registry.Ascending) {extension : String} :
    (registry.formats.find? fun format => format.extensions.contains extension) = none ↔
      ∀ name, ¬HasExtension (registry.get? name) extension := by
  rw [List.find?_eq_none]
  constructor
  · rintro unlisted name ⟨format, hf, listed⟩
    exact unlisted format (mem_of_get? hf) (List.contains_iff_mem.mpr listed)
  · intro unlisted format hm lists
    exact unlisted format.name ⟨format, h.mem_iff_get?.mp hm, List.contains_iff_mem.mp lists⟩

theorem detect?_eq (registry : Registry) (fileName : String) :
    registry.detect? fileName = (Path.extension? fileName).bind fun extension =>
      (registry.formats.find? fun format => format.extensions.contains extension).map
        Format.name := by
  simp only [Option.map_eq_bind]
  rfl

theorem Ascending.detect?_eq_none_iff (h : registry.Ascending) {fileName : String} :
    registry.detect? fileName = none ↔
      ∀ extension, Path.extension? fileName = some extension →
        ∀ name, ¬HasExtension (registry.get? name) extension := by
  rw [detect?_eq, Option.bind_eq_none_iff]
  simp only [Option.map_eq_none_iff, h.find?_extension_eq_none_iff]

theorem Ascending.detect?_eq_some_iff (h : registry.Ascending) {fileName : String} :
    registry.detect? fileName = some name ↔
      ∃ extension, Path.extension? fileName = some extension ∧
        HasExtension (registry.get? name) extension ∧
        ∀ other, HasExtension (registry.get? other) extension → name ≤ other := by
  constructor
  · rw [detect?_eq, Option.bind_eq_some_iff]
    rintro ⟨extension, read, named⟩
    obtain ⟨format, found, rfl⟩ := Option.map_eq_some_iff.mp named
    exact ⟨extension, read, h.of_find?_extension found⟩
  · rintro ⟨extension, read, lists, least⟩
    cases found : registry.formats.find? fun format => format.extensions.contains extension with
    | none => exact absurd lists (h.find?_extension_eq_none_iff.mp found name)
    | some format =>
      obtain ⟨listed, first⟩ := h.of_find?_extension found
      rw [detect?_eq, read, Option.bind_some, found]
      exact congrArg some (String.le_antisymm (first name lists) (least _ listed))

end

/-- Pages with other options take the place of those with the default ones. -/
theorem formats_register_html (options : PageOptions) :
    (default.register (.html options)).formats = [.html options, .json] := by
  have builtin : default.formats = [.html {}, .json] := by
    have after : ¬ Format.json.name < (Format.html {}).name := by decide +kernel
    have before : (Format.html {}).name < Format.json.name := by decide +kernel
    change insertByName .json [.html {}] = _
    rw [insertByName, if_neg after, if_pos before, insertByName]
  have irrefl : ¬ "html" < "html" := by decide +kernel
  have under : ¬ (Format.html options).name < (Format.html {}).name := irrefl
  have above : ¬ (Format.html {}).name < (Format.html options).name := irrefl
  change insertByName (.html options) default.formats = _
  rw [builtin, insertByName, if_neg under, if_neg above]

/-! ## Registries by their history -/

inductive Start where
  | empty
  | builtin
deriving DecidableEq, Repr

namespace Start

def registry : Start → Registry
  | empty => .empty
  | builtin => .default

def formats : Start → List Format
  | empty => []
  | builtin => [.html {}, .json]

theorem registry_eq (start : Start) :
    start.registry = start.formats.foldl register Registry.empty := by
  cases start <;> rfl

end Start

/-- The format registered last under a name. -/
def last? (history : List Format) (name : String) : Option Format :=
  history.reverse.find? fun format => format.name = name

theorem last?_isSome_iff {history : List Format} {name : String} :
    (last? history name).isSome = true ↔ ∃ format ∈ history, format.name = name := by
  simp [last?]

/-- Only the registrations under a name count. -/
theorem last?_filter (history : List Format) (name : String) :
    last? (history.filter fun format => format.name = name) name = last? history name := by
  rw [last?, last?, ← List.filter_reverse, List.find?_filter]
  simp

theorem get?_of_history (start : Start) (formats : List Format) (name : String) :
    (formats.foldl register start.registry).get? name = last? (start.formats ++ formats) name := by
  rw [start.registry_eq, ← List.foldl_append, get?_foldl, last?]
  simp [get?, empty]

theorem get_eq (registry : Registry) (name : String) :
    registry.get name = match registry.get? name with
      | some format => .ok format
      | none => .error (.formatNotFound name) := rfl

theorem write_of_get {registry : Registry} {name : String} {format : Format}
    (h : registry.get name = .ok format) (document : Document) :
    registry.write document name = format.write document := by
  rw [write, h]
  rfl

theorem writeWith_of_get {registry : Registry} {name : String} {format : Format}
    (h : registry.get name = .ok format) (document : Document) (parameters : Parameters) :
    registry.writeWith document name parameters = format.writeWith document parameters := by
  rw [writeWith, h]
  rfl

/-- **A registry answers by the last registrations.** Whatever formats are registered in a new or a
default registry, its names ascend strictly and are the names registered, and a name is there just if
its format can be had. That format, also for writing, is the one registered last under the name, and
the error says that there is none of that name otherwise. The format of a file is the least name of
which the current format has the file's extension, if the file has one and a format has it. In another
order of the registrations, with those under each name as they were, the registry is the same. -/
theorem answers_of_registrations (start : Start) (formats : List Format) :
    let registry := formats.foldl register start.registry
    let history := start.formats ++ formats
    registry.names.Pairwise (· < ·) ∧
    (∀ name, name ∈ registry.names ↔ ∃ format ∈ history, format.name = name) ∧
    (∀ name, (registry.has name = true ↔ name ∈ registry.names) ∧
      ((∃ format, registry.get name = .ok format) ↔ name ∈ registry.names)) ∧
    (∀ name document parameters,
      match last? history name with
      | some format =>
        registry.get name = .ok format ∧
          registry.write document name = format.write document ∧
          registry.writeWith document name parameters = format.writeWith document parameters
      | none =>
        registry.get name = .error (.formatNotFound name) ∧
          registry.write document name = .error (.formatNotFound name) ∧
          registry.writeWith document name parameters = .error (.formatNotFound name)) ∧
    (∀ fileName,
      (∀ name, registry.detect? fileName = some name ↔
        ∃ extension, Path.extension? fileName = some extension ∧
          HasExtension (last? history name) extension ∧
          ∀ other, HasExtension (last? history other) extension → name ≤ other) ∧
      (registry.detect? fileName = none ↔
        ∀ extension, Path.extension? fileName = some extension →
          ∀ name, ¬HasExtension (last? history name) extension)) ∧
    ∀ others : List Format,
      (∀ name, (others.filter fun format => format.name = name) =
        formats.filter fun format => format.name = name) →
      others.foldl register start.registry = registry := by
  intro registry history
  have start_ascending : start.registry.Ascending := start.registry_eq ▸ Ascending.empty.foldl _
  have ascending (formats : List Format) : (formats.foldl register start.registry).Ascending :=
    start_ascending.foldl formats
  have current (name : String) : registry.get? name = last? history name :=
    get?_of_history start formats name
  refine ⟨(ascending formats).names, fun name => ?_, fun name => ⟨?_, ?_⟩,
    fun name document parameters => ?_, fun fileName => ⟨fun name => ?_, ?_⟩,
    fun others same => ?_⟩
  · rw [mem_names_iff, current, last?_isSome_iff]
  · rw [mem_names_iff, has]
  · rw [mem_names_iff, get_eq]
    cases registry.get? name <;> simp
  · unfold write writeWith
    rw [get_eq, current]
    cases last? history name with
    | none => exact ⟨rfl, rfl, rfl⟩
    | some format => exact ⟨rfl, rfl, rfl⟩
  · simp only [← current]
    exact (ascending formats).detect?_eq_some_iff
  · simp only [← current]
    exact (ascending formats).detect?_eq_none_iff
  · refine (ascending others).ext (ascending formats) fun name => ?_
    rw [get?_of_history, get?_of_history, ← last?_filter,
      ← last?_filter (start.formats ++ formats), List.filter_append, List.filter_append, same]

/-- A format that loses its extension, with the registration of another format before and behind. -/
theorem answers_of_registrations_replaced :
    let write (document : Document) : Except Failure String := .ok document.title
    let old := Format.plain "a" ["txt"] write
    let new := Format.plain "a" [] write
    let other := Format.plain "b" ["txt"] write
    [other, old, new].foldl register Start.builtin.registry =
        [old, new, other].foldl register Start.builtin.registry ∧
      ([old, new, other].foldl register Start.builtin.registry).detect? "page.txt" = some "b" := by
  intro write old new other
  refine ⟨(answers_of_registrations .builtin [old, new, other]).2.2.2.2.2 [other, old, new] ?_,
    ?_⟩
  · intro name
    have names : old.name = "a" ∧ new.name = "a" ∧ other.name = "b" := ⟨rfl, rfl, rfl⟩
    obtain ⟨first, second, third⟩ := names
    by_cases same : "a" = name
    · subst same
      simp [first, second, third]
    · simp [List.filter_cons, first, second, third, same]
  · decide +kernel

end Questionnaire.Registry
