import Questionnaire.Proofs.Format.Parameters
import Questionnaire.Proofs.Format.Registry
import Questionnaire.Proofs.Settings.Extras

/-! # Known parameters that are left for the output format

A setting takes out the first of its names that is given and leaves the other, so a known parameter is
left just if the first name of its setting is given too. No format knows such a parameter, and then
every format refuses it.
-/

namespace Questionnaire

namespace Extras

def given? (extras : Extras) (names : List String) : Option String :=
  names.find? fun name => (extras.lookup name).isSome

theorem given?_cons (extras : Extras) (name : String) (names : List String) :
    extras.given? (name :: names) =
      if (extras.lookup name).isSome then some name else extras.given? names := by
  rw [given?, List.find?_cons]
  cases extras.lookup name <;> rfl

theorem mem_of_given? {extras : Extras} {name : String} {names : List String}
    (h : extras.given? names = some name) : name ∈ names :=
  List.mem_of_find?_eq_some h

theorem lookup_rest (extras : Extras) (names : List String) (name : String) :
    (extras.rest names).lookup name =
      if extras.given? names = some name then none else extras.lookup name := by
  induction names with
  | nil => rfl
  | cons other names ih =>
    rw [rest_cons, given?_cons]
    split
    · by_cases same : other = name
      · rw [same, if_pos rfl]
        exact Entries.lookup_without name extras
      · rw [if_neg (by simpa using same)]
        exact Entries.lookup_without_of_ne (Ne.symm same) extras
    · exact ih

theorem given?_rest {names taken : List String} (h : ∀ name ∈ names, name ∉ taken)
    (extras : Extras) : (extras.rest taken).given? names = extras.given? names := by
  induction names with
  | nil => rfl
  | cons name names ih =>
    obtain ⟨here, others⟩ := List.forall_mem_cons.mp h
    rw [given?_cons, given?_cons, lookup_rest_of_not_mem here, ih others]

/-- Where settings share no name, each takes out the first of its names that is given. -/
theorem lookup_foldl_rest {groups : List (List String)}
    (apart : groups.Pairwise fun taken names => ∀ name ∈ names, name ∉ taken) (extras : Extras)
    (name : String) : (groups.foldl rest extras).lookup name =
      if ∃ names ∈ groups, extras.given? names = some name then none else extras.lookup name := by
  induction groups generalizing extras with
  | nil => simp
  | cons taken groups ih =>
    obtain ⟨here, others⟩ := List.pairwise_cons.mp apart
    have unchanged : (∃ names ∈ groups, (extras.rest taken).given? names = some name) ↔
        ∃ names ∈ groups, extras.given? names = some name := by
      refine exists_congr fun names => and_congr_right fun hm => ?_
      rw [given?_rest (here names hm)]
    rw [List.foldl_cons, ih others, lookup_rest]
    simp only [unchanged, List.exists_mem_cons_iff]
    by_cases first : extras.given? taken = some name <;> simp [first]

theorem knownExtras_cases {names : List String} (h : names ∈ knownExtras) :
    (∃ name, names = [name]) ∨ ∃ main other, names = [main, other] ∧ main ≠ other := by
  revert names
  simp [knownExtras]

/-- No name belongs to two settings. -/
theorem knownExtras_apart :
    knownExtras.Pairwise fun taken names => ∀ name ∈ names, name ∉ taken := by decide

theorem knownExtras_unique {one other : List String} {name : String} (ho : one ∈ knownExtras)
    (ht : other ∈ knownExtras) (hn : name ∈ one) (hm : name ∈ other) : one = other := by
  have unique : ∀ one ∈ knownExtras, ∀ other ∈ knownExtras, ∀ name ∈ one, name ∈ other →
      one = other := by decide
  exact unique one ho other ht name hn hm

/-- Whether a parameter is given under the second name of a setting of which the first name is given
too. -/
def PassesOver (extras : Extras) (name : String) : Prop :=
  ∃ main, [main, name] ∈ knownExtras ∧ (extras.lookup main).isSome = true ∧
    (extras.lookup name).isSome = true

/-- All known parameters are taken but those that are passed over. -/
theorem lookup_leftover_eq_some_iff {extras : Extras} {name value : String} :
    extras.leftover.lookup name = some value ↔
      extras.lookup name = some value ∧ (name ∈ knownExtras.flatten → extras.PassesOver name) := by
  rw [leftover, lookup_foldl_rest knownExtras_apart]
  split
  · rename_i taken
    obtain ⟨names, hk, first⟩ := taken
    have hn := mem_of_given? first
    refine ⟨nofun, fun ⟨_, passed⟩ => ?_⟩
    obtain ⟨main, pair, given, -⟩ := passed (List.mem_flatten.mpr ⟨names, hk, hn⟩)
    obtain rfl : names = [main, name] := knownExtras_unique hk pair hn (by simp)
    rw [given?_cons, if_pos given] at first
    rcases knownExtras_cases pair with ⟨_, single⟩ | ⟨one, other, he, differs⟩
    · simp at single
    · cases he
      exact absurd (Option.some.inj first) differs
  · rename_i free
    refine ⟨fun found => ⟨found, fun known => ?_⟩, And.left⟩
    have given : (extras.lookup name).isSome = true := by rw [found]; rfl
    obtain ⟨names, hk, hn⟩ := List.mem_flatten.mp known
    have other : extras.given? names ≠ some name := fun first => free ⟨names, hk, first⟩
    rcases knownExtras_cases hk with ⟨single, rfl⟩ | ⟨main, second, rfl, -⟩
    · obtain rfl := List.mem_singleton.mp hn
      simp [given?_cons, given] at other
    · rcases List.mem_pair.mp hn with rfl | rfl
      · simp [given?_cons, given] at other
      · refine ⟨main, hk, ?_, given⟩
        by_contra absent
        simp [given?_cons, given, absent] at other

end Extras

theorem Entries.eq_nil_of_lookup {κ α : Type} [BEq κ] [LawfulBEq κ] {entries : Entries κ α}
    (h : ∀ key, entries.lookup key = none) : entries = [] := by
  cases entries with
  | nil => rfl
  | cons entry rest =>
    have found := h entry.1
    simp at found

/-! ## What the formats make of them -/

theorem Format.json_refuses {parameters : Parameters}
    (unknown : ∃ name ∈ parameters.map Prod.fst, name ≠ fieldsOnly) (document : Document) :
    ∃ reason, Format.json.writeWith document parameters = .error (.notSupported reason) := by
  obtain ⟨_, hm, other⟩ := unknown
  obtain ⟨⟨name, value⟩, hp, rfl⟩ := List.mem_map.mp hm
  have refused : (parameters.any fun parameter => parameter.1 ≠ fieldsOnly) = true :=
    List.any_eq_true.mpr ⟨(name, value), hp, by simpa using other⟩
  exact ⟨_, if_pos refused⟩

theorem Format.html_accepts_none (options : PageOptions) (document : Document) :
    ∃ text, (Format.html options).writeWith document [] = .ok text ∧
      (Format.html options).write document = .ok text :=
  ⟨writePage options document, rfl, rfl⟩

theorem Format.json_accepts_none (document : Document) :
    ∃ text, Format.json.writeWith document [] = .ok text ∧ Format.json.write document = .ok text :=
  ⟨document.toJson.pretty, rfl, rfl⟩

theorem Extras.PassesOver.unknown {extras : Extras} {name : String} (h : extras.PassesOver name) :
    name ∉ pageParameters ∧ name ≠ fieldsOnly := by
  obtain ⟨main, pair, -⟩ := h
  have apart : ∀ names ∈ knownExtras, ∀ name ∈ names.tail,
      name ∉ pageParameters ∧ name ≠ fieldsOnly := by decide
  exact apart _ pair name (by simp)

theorem Extras.PassesOver.mem_leftover {extras : Extras} {name : String}
    (h : extras.PassesOver name) : name ∈ extras.leftover.map Prod.fst := by
  obtain ⟨value, given⟩ := Option.isSome_iff_exists.mp h.choose_spec.2.2
  rw [Entries.mem_keys_iff, Extras.lookup_leftover_eq_some_iff.mpr ⟨given, fun _ => h⟩]
  exact Option.some_ne_none value

/-- Where only known parameters are given and none is passed over, none is left. -/
theorem Extras.leftover_eq_nil {extras : Extras}
    (known : ∀ name ∈ extras.map Prod.fst, name ∈ knownExtras.flatten)
    (taken : ¬∃ passed, extras.PassesOver passed) : extras.leftover = [] := by
  refine Entries.eq_nil_of_lookup fun name => ?_
  by_contra left
  obtain ⟨value, found⟩ := Option.ne_none_iff_exists'.mp left
  obtain ⟨given, passed⟩ := Extras.lookup_leftover_eq_some_iff.mp found
  have asked : name ∈ extras.map Prod.fst := by
    rw [Entries.mem_keys_iff, given]
    exact Option.some_ne_none value
  exact taken ⟨name, passed (known name asked)⟩

/-- The formats of a run that renders. -/
theorem Registry.get_rendering {options : PageOptions} {name : String}
    (h : name ∈ (Registry.default.register (.html options)).names) :
    (Registry.default.register (.html options)).get name = .ok (.html options) ∨
      (Registry.default.register (.html options)).get name = .ok .json := by
  rw [names, formats_register_html] at h
  rw [get, get?, formats_register_html]
  rcases List.mem_pair.mp h with rfl | rfl
  · left
    rw [List.find?_cons_of_pos (by simp)]
  · right
    have apart : (Format.html options).name ≠ Format.json.name := by simp [Format.html, Format.json]
    rw [List.find?_cons_of_neg (by simpa using apart), List.find?_cons_of_pos (by simp)]

/-- **Which known parameters are left for the output format.** Where the values that count can be read,
the parameters are applied, and those left are the ones that are not known, with their values, and the
ones that are passed over. A format that is asked to write with known parameters alone refuses them
just if one of them is passed over, and writes as without parameters otherwise. -/
theorem known_parameters_left_iff (settings : Settings) (extras : Extras) (valid : extras.Valid) :
    ∃ changed left, settings.applyExtras extras = .ok (changed, left) ∧
      (∀ name value, left.lookup name = some value ↔
        extras.lookup name = some value ∧
          (name ∈ knownExtras.flatten → extras.PassesOver name)) ∧
      ((∀ name ∈ extras.map Prod.fst, name ∈ knownExtras.flatten) →
        ∀ (options : PageOptions) (document : Document) (name : String),
          let registry := Registry.default.register (.html options)
          name ∈ registry.names →
            ((∃ passed, extras.PassesOver passed) →
              ∃ reason, registry.writeWith document name left = .error (.notSupported reason)) ∧
            ((¬∃ passed, extras.PassesOver passed) →
              ∃ text, registry.writeWith document name left = .ok text ∧
                registry.write document name = .ok text)) := by
  obtain ⟨changed, applied, -⟩ := settings.applyExtras_of_valid valid
  refine ⟨changed, extras.leftover, applied, fun name value => Extras.lookup_leftover_eq_some_iff,
    fun known options document name => ?_⟩
  intro registry named
  refine ⟨?_, fun taken => ?_⟩
  · rintro ⟨passed, h⟩
    rcases Registry.get_rendering named with found | found
    · rw [Registry.writeWith_of_get found]
      exact Format.html_refuses options ⟨passed, h.mem_leftover, h.unknown.1⟩ document
    · rw [Registry.writeWith_of_get found]
      exact Format.json_refuses ⟨passed, h.mem_leftover, h.unknown.2⟩ document
  · rw [Extras.leftover_eq_nil known taken]
    rcases Registry.get_rendering named with found | found
    · rw [Registry.writeWith_of_get found, Registry.write_of_get found]
      exact Format.html_accepts_none options document
    · rw [Registry.writeWith_of_get found, Registry.write_of_get found]
      exact Format.json_accepts_none document

/-- Both names of a stylesheet, and a parameter that pages know as well. -/
theorem known_parameters_left_iff_two_stylesheets :
    let extras : Extras := [("css", "a.css"), ("method", "get"), ("css-path", "b.css")]
    ∃ changed left, Settings.applyExtras ⟨3, "", "post", "", "", .lenient, none, none⟩ extras =
        .ok (changed, left) ∧
      left.lookup "css-path" = some "b.css" ∧ left.lookup "method" = none := by
  intro extras
  have passed : extras.PassesOver "css-path" := ⟨"css", by decide, by decide, by decide⟩
  have taken : ¬extras.PassesOver "method" := by
    rintro ⟨main, pair, -⟩
    simp [knownExtras] at pair
  have valid : extras.Valid := ⟨by simp [extras, Extras.first?], by simp [extras, Extras.first?],
    by simp [extras, Extras.first?]⟩
  obtain ⟨changed, left, applied, lefts, -⟩ :=
    known_parameters_left_iff ⟨3, "", "post", "", "", .lenient, none, none⟩ extras valid
  refine ⟨changed, left, applied, (lefts _ _).mpr ⟨rfl, fun _ => passed⟩, ?_⟩
  by_contra found
  obtain ⟨value, kept⟩ := Option.ne_none_iff_exists'.mp found
  exact taken (((lefts _ _).mp kept).2 (by decide))

/-- The second name of the row count reaches the format, which does not know it. -/
theorem second_name_is_refused :
    let extras : Extras := [("textarea-rows", "6"), ("rows", "7")]
    extras.Valid ∧ (∀ name ∈ extras.map Prod.fst, name ∈ knownExtras.flatten) ∧
      Settings.applyExtras ⟨3, "", "post", "", "", .lenient, none, none⟩ extras =
        .ok (⟨6, "", "post", "", "", .lenient, none, none⟩, [("rows", "7")]) ∧
      (Registry.default.register (.html {})).writeWith ⟨"Quiz", []⟩ "html" [("rows", "7")] =
        .error (.notSupported "Unknown html parameter 'rows'") := by
  intro extras
  refine ⟨⟨?_, by simp [extras, Extras.first?], by simp [extras, Extras.first?]⟩, by decide, ?_, ?_⟩
  · rintro text ⟨⟩
    exact ⟨6, by decide⟩
  · decide
  · rfl

end Questionnaire
