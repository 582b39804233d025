import Questionnaire.Settings.Extras

/-! # Known parameters and the settings they change

Every setting has names of its own among the known parameters, so what is taken out for one setting
does not hide the value of another. The parameters as they were given decide on all settings, and the
parameters left are those that no setting took.
-/

namespace Questionnaire

namespace Entries

variable {κ α : Type} [BEq κ] [LawfulBEq κ]

theorem lookup_without (key : κ) (entries : Entries κ α) :
    (entries.without key).lookup key = none := by
  rw [List.lookup_eq_none_iff]
  rintro ⟨other, value⟩ hm
  have kept := (List.mem_filter.mp hm).2
  simpa using kept

/-- Other keys keep their values. -/
theorem lookup_without_of_ne {key other : κ} (h : other ≠ key) (entries : Entries κ α) :
    (entries.without key).lookup other = entries.lookup other := by
  have differs : (other == key) = false := beq_eq_false_iff_ne.mpr h
  induction entries with
  | nil => rfl
  | cons entry rest ih =>
    obtain ⟨here, value⟩ := entry
    cases same : key == here with
    | true =>
      have dropped : without key ((here, value) :: rest) = without key rest := by simp [without, same]
      have skipped : (other == here) = false := eq_of_beq same ▸ differs
      rw [dropped, ih, List.lookup_cons, skipped]
    | false =>
      have kept : without key ((here, value) :: rest) = (here, value) :: without key rest := by
        simp [without, same]
      rw [kept, List.lookup_cons, List.lookup_cons, ih]

end Entries

namespace Extras

/-- The value of the first of some names that is given. -/
def first? (extras : Extras) (names : List String) : Option String :=
  names.findSome? fun name => extras.lookup name

def rest (extras : Extras) (names : List String) : Extras := (extras.takeFirst names).2

theorem first?_cons (extras : Extras) (name : String) (names : List String) :
    extras.first? (name :: names) = (extras.lookup name <|> extras.first? names) := by
  rw [first?, List.findSome?_cons]
  cases extras.lookup name <;> rfl

theorem first?_singleton (extras : Extras) (name : String) :
    extras.first? [name] = extras.lookup name := by
  rw [first?_cons]
  cases extras.lookup name <;> rfl

theorem first?_pair (extras : Extras) (main other : String) :
    extras.first? [main, other] = (extras.lookup main <|> extras.lookup other) := by
  rw [first?_cons, first?_singleton]

theorem rest_cons (extras : Extras) (name : String) (names : List String) :
    extras.rest (name :: names) =
      if (extras.lookup name).isSome then extras.without name else extras.rest names := by
  rw [rest, takeFirst, take]
  cases extras.lookup name <;> rfl

theorem takeFirst_eq (extras : Extras) (names : List String) :
    extras.takeFirst names = (extras.first? names, extras.rest names) := by
  have value : (extras.takeFirst names).1 = extras.first? names := by
    induction names with
    | nil => rfl
    | cons name names ih =>
      rw [takeFirst, take, first?_cons]
      cases extras.lookup name with
      | some value => rfl
      | none => exact ih
  rw [← value]
  rfl

/-- Parameters with other names stay. -/
theorem lookup_rest_of_not_mem {name : String} {names : List String} (h : name ∉ names)
    (extras : Extras) : (extras.rest names).lookup name = extras.lookup name := by
  induction names with
  | nil => rfl
  | cons other names ih =>
    rw [rest_cons]
    split
    · exact Entries.lookup_without_of_ne (List.ne_of_not_mem_cons h) extras
    · exact ih (List.not_mem_of_not_mem_cons h)

theorem first?_rest {names taken : List String} (h : ∀ name ∈ names, name ∉ taken)
    (extras : Extras) : (extras.rest taken).first? names = extras.first? names := by
  induction names with
  | nil => rfl
  | cons name names ih =>
    obtain ⟨here, others⟩ := List.forall_mem_cons.mp h
    rw [first?_cons, first?_cons, lookup_rest_of_not_mem here, ih others]

end Extras

/-! ## All known parameters -/

/-- The names of the known parameters, those of one setting together. -/
def knownExtras : List (List String) := [
  ["textarea-rows", "rows"],
  ["placeholder"],
  ["policy"],
  ["strict"],
  ["method"],
  ["action"],
  ["submit-label", "submit"],
  ["css", "css-path"]]

def Extras.leftover (extras : Extras) : Extras := knownExtras.foldl Extras.rest extras

namespace Settings

/-- What a value reads as, or what was there before where none is given. -/
def readOr {α : Type} (before : α) (read : String → Except ExtraFault α) :
    Option String → Except ExtraFault α
  | some text => read text
  | none => .ok before

def override (settings : Settings) (value? : List String → Option String) :
    Except ExtraFault Settings := do
  let rows ← readOr settings.rows readRows (value? ["textarea-rows", "rows"])
  let policy ← readOr settings.policy readPolicy (value? ["policy"])
  let strict ← readOr false (readTruth "strict") (value? ["strict"])
  return {
    rows
    placeholder := (value? ["placeholder"]).getD settings.placeholder
    method := (value? ["method"]).getD settings.method
    action := (value? ["action"]).getD settings.action
    submitLabel := (value? ["submit-label", "submit"]).getD settings.submitLabel
    policy := if strict then .strict else policy
    title := settings.title
    customCss := value? ["css", "css-path"] <|> settings.customCss }

/-- The parameters as they were given decide on every setting. -/
theorem applyExtras_eq (settings : Settings) (extras : Extras) :
    settings.applyExtras extras =
      (fun changed => (changed, extras.leftover)) <$> settings.override extras.first? := by
  unfold applyExtras override
  simp (disch := decide) only [Extras.takeFirst_eq, Extras.first?_rest, map_bind, map_pure]
  cases extras.first? ["textarea-rows", "rows"] <;> cases extras.first? ["policy"] <;>
    cases extras.first? ["strict"] <;> rfl

/-- Only the names of settings are looked at. -/
theorem override_congr (settings : Settings) {value? value?' : List String → Option String}
    (same : ∀ names ∈ knownExtras, value? names = value?' names) :
    settings.override value? = settings.override value?' := by
  unfold override
  simp only [knownExtras, List.forall_mem_cons] at same
  obtain ⟨rows, placeholder, policy, strict, method, action, submit, css, -⟩ := same
  rw [rows, placeholder, policy, strict, method, action, submit, css]

end Settings

/-! ## Values that can be read -/

namespace Extras

/-- Whether the values that count can be read. -/
structure Valid (extras : Extras) : Prop where
  rows : ∀ text, extras.first? ["textarea-rows", "rows"] = some text →
    ∃ rows, Settings.readRows text = .ok rows
  policy : ∀ text, extras.first? ["policy"] = some text →
    ∃ policy, Settings.readPolicy text = .ok policy
  strict : ∀ text, extras.first? ["strict"] = some text →
    ∃ strict, readTruth "strict" text = .ok strict

theorem exists_readOr {α : Type} (before : α) {read : String → Except ExtraFault α}
    {value? : Option String} (valid : ∀ text, value? = some text → ∃ value, read text = .ok value) :
    ∃ value, Settings.readOr before read value? = .ok value := by
  cases value? with
  | none => exact ⟨before, rfl⟩
  | some text => exact valid text rfl

end Extras

namespace Settings

/-- What extra parameters make of settings: every setting that one of them names is replaced, by the
first of its names that is given, and all others stay. -/
structure Replaced (extras : Extras) (before after : Settings) : Prop where
  rows : readOr before.rows readRows (extras.lookup "textarea-rows" <|> extras.lookup "rows") =
    .ok after.rows
  placeholder : after.placeholder = (extras.lookup "placeholder").getD before.placeholder
  method : after.method = (extras.lookup "method").getD before.method
  action : after.action = (extras.lookup "action").getD before.action
  submitLabel : after.submitLabel =
    (extras.lookup "submit-label" <|> extras.lookup "submit").getD before.submitLabel
  /-- Strictness wins over a policy, and its absence changes nothing. -/
  policy : ∃ policy strict, readOr before.policy readPolicy (extras.lookup "policy") = .ok policy ∧
    readOr false (readTruth "strict") (extras.lookup "strict") = .ok strict ∧
    after.policy = if strict then .strict else policy
  title : after.title = before.title
  customCss : after.customCss =
    (extras.lookup "css" <|> extras.lookup "css-path" <|> before.customCss)

/-- Parameters that can be read are applied. -/
theorem applyExtras_of_valid (settings : Settings) {extras : Extras} (valid : extras.Valid) :
    ∃ changed, settings.applyExtras extras = .ok (changed, extras.leftover) ∧
      Replaced extras settings changed := by
  obtain ⟨rows, hr⟩ := Extras.exists_readOr settings.rows valid.rows
  obtain ⟨policy, hp⟩ := Extras.exists_readOr settings.policy valid.policy
  obtain ⟨strict, hs⟩ := Extras.exists_readOr false valid.strict
  rw [applyExtras_eq, override, hr, hp, hs]
  refine ⟨_, rfl, ?_⟩
  simp only [Extras.first?_pair, Extras.first?_singleton] at hr hp hs ⊢
  exact {
    rows := hr
    placeholder := rfl
    method := rfl
    action := rfl
    submitLabel := rfl
    policy := ⟨policy, strict, hp, hs, rfl⟩
    title := rfl
    customCss := by cases extras.lookup "css" <;> rfl }

end Settings

/-! ## Parameters that differ in one -/

namespace Extras

def AgreeOff (apart : String) (one other : Extras) : Prop :=
  ∀ name, name ≠ apart → one.lookup name = other.lookup name

namespace AgreeOff

variable {apart : String} {one other : Extras} {names : List String}

theorem first? (h : AgreeOff apart one other) (others : apart ∉ names) :
    one.first? names = other.first? names := by
  induction names with
  | nil => rfl
  | cons name names ih =>
    rw [first?_cons, first?_cons, h name (List.ne_of_not_mem_cons others).symm,
      ih (List.not_mem_of_not_mem_cons others)]

theorem rest (h : AgreeOff apart one other) (others : apart ∉ names) :
    AgreeOff apart (one.rest names) (other.rest names) := by
  induction names with
  | nil => exact h
  | cons name names ih =>
    have here := h name (List.ne_of_not_mem_cons others).symm
    rw [rest_cons, rest_cons, here]
    split
    · intro asked differs
      by_cases same : asked = name
      · rw [same, Entries.lookup_without, Entries.lookup_without]
      · rw [Entries.lookup_without_of_ne same, Entries.lookup_without_of_ne same, h asked differs]
    · exact ih (List.not_mem_of_not_mem_cons others)

end AgreeOff

theorem rest_sublist (extras : Extras) (names : List String) : (extras.rest names).Sublist extras := by
  induction names with
  | nil => exact .refl _
  | cons name names ih =>
    rw [rest_cons]
    split
    · exact List.filter_sublist
    · exact ih

theorem leftover_sublist (extras : Extras) : extras.leftover.Sublist extras := by
  unfold leftover
  generalize knownExtras = groups
  induction groups generalizing extras with
  | nil => exact .refl _
  | cons names groups ih => exact (ih _).trans (extras.rest_sublist names)

/-- A name that is not known stays as it is. -/
theorem lookup_leftover {name : String} (unknown : ∀ names ∈ knownExtras, name ∉ names)
    (extras : Extras) : extras.leftover.lookup name = extras.lookup name := by
  unfold leftover
  generalize knownExtras = groups at unknown
  induction groups generalizing extras with
  | nil => rfl
  | cons names groups ih =>
    obtain ⟨here, others⟩ := List.forall_mem_cons.mp unknown
    rw [List.foldl_cons, ih _ others, lookup_rest_of_not_mem here]

/-- A parameter that is not known leaves the settings and the other parameters as they are. -/
theorem AgreeOff.leftover {apart : String} {one other : Extras} (h : AgreeOff apart one other)
    (unknown : ∀ names ∈ knownExtras, apart ∉ names) :
    AgreeOff apart one.leftover other.leftover := by
  unfold Extras.leftover
  generalize knownExtras = groups at unknown
  induction groups generalizing one other with
  | nil => exact h
  | cons names groups ih =>
    obtain ⟨here, others⟩ := List.forall_mem_cons.mp unknown
    exact ih (h.rest here) others

theorem AgreeOff.override {apart : String} {one other : Extras} (h : AgreeOff apart one other)
    (unknown : ∀ names ∈ knownExtras, apart ∉ names) (settings : Settings) :
    settings.override one.first? = settings.override other.first? :=
  settings.override_congr fun names hm => h.first? (unknown names hm)

end Extras
end Questionnaire
