import Questionnaire.Failure
import Questionnaire.Proofs.Settings.Laying

/-! # Settings read from a tree

Where the sections of a tree are tables, each setting is read from the value that the tree holds for
it. No setting is read from an array or a table, except that a policy may be a table with one key, so
what an older layer adds to a value never shows in a setting.
-/

namespace Questionnaire

open ConfigValue (Carries Carried)

/-! ## Sections and their settings -/

/-- Whether a setting is what a value converts to. A title or a stylesheet may be left out. -/
def Setting.Reads (setting : Setting) (value? : Option ConfigValue) (settings : Settings) : Prop :=
  let located? : Option Located := value?.map fun value => ⟨value, setting.path⟩
  match setting with
  | rows => located?.map Located.size = some (.ok settings.rows)
  | placeholder => located?.map Located.text = some (.ok settings.placeholder)
  | method => located?.map Located.text = some (.ok settings.method)
  | action => located?.map Located.text = some (.ok settings.action)
  | submitLabel => located?.map Located.text = some (.ok settings.submitLabel)
  | policy => located?.map Located.policy = some (.ok settings.policy)
  | title => Located.text? located? = .ok settings.title
  | customCss => Located.text? located? = .ok settings.customCss

/-- What is found for the keys of a list, looked up by one of them. -/
theorem lookup_filterMap {α β : Type} (value? : String → Option α) (make : String → α → β)
    (keys : List String) (key : String) :
    (keys.filterMap fun key => (value? key).map fun value => (key, make key value)).lookup key =
      if key ∈ keys then (value? key).map (make key) else none := by
  induction keys with
  | nil => rfl
  | cons other keys ih =>
    by_cases same : key = other
    · subst same
      cases found : value? key <;> simp [found, ih]
    · have differs : (key == other) = false := beq_eq_false_iff_ne.mpr same
      cases found : value? other <;> simp [found, List.lookup_cons, same, differs, ih]

namespace SectionShape

variable {shape : SectionShape} {part : ConfigValue} {found : List (String × Located)}

theorem lookup_find (tabled : ∃ members origin, part = .table members origin)
    (h : shape.find part = .ok found) {key : String} (listed : key ∈ shape.settings) :
    found.lookup key =
      (part.members.lookup key).map fun value => ⟨value, [.member shape.key, .member key]⟩ := by
  obtain ⟨members, origin, rfl⟩ := tabled
  obtain rfl := Except.ok.inj h
  exact (lookup_filterMap (fun key => members.lookup key) _ shape.settings key).trans
    (if_pos listed)

theorem lookup_of_need {key : String} {located : Located}
    (h : shape.need part found key = .ok located) : found.lookup key = some located := by
  unfold need at h
  split at h
  · rename_i there
    rw [there, Except.ok.inj h]
  · cases h

theorem lookup_of_of {members : ConfigMembers} (h : shape.of members = .ok part) :
    members.lookup shape.key = some part := by
  unfold SectionShape.of at h
  split at h
  · rename_i there
    rw [there, Except.ok.inj h]
  · cases h

end SectionShape

namespace Setting

variable {root part : ConfigValue} {found : List (String × Located)} (setting : Setting)

/-- The settings found in a section are those that the tree holds. A section that is missing counts as
an empty table. -/
theorem lookup_find (tabled : root.Tabled)
    (h : setting.shape.find ((root.members.lookup setting.shape.key).getD (.table [] none)) =
      .ok found) :
    found.lookup setting.key =
      (root.held? setting).map fun value => ⟨value, setting.path⟩ := by
  have listed : setting.key ∈ setting.shape.settings := by cases setting <;> decide
  rw [ConfigValue.held?]
  cases there : root.members.lookup setting.shape.key with
  | none =>
    rw [there] at h
    exact SectionShape.lookup_find ⟨_, _, rfl⟩ h listed
  | some part =>
    rw [there] at h
    exact SectionShape.lookup_find (tabled setting part there) h listed

theorem lookup_find_of_of (tabled : root.Tabled) (there : setting.shape.of root.members = .ok part)
    (h : setting.shape.find part = .ok found) :
    found.lookup setting.key =
      (root.held? setting).map fun value => ⟨value, setting.path⟩ := by
  refine setting.lookup_find tabled ?_
  rw [SectionShape.lookup_of_of there]
  exact h

/-- A setting that must be there is converted where the tree holds it. -/
theorem map_held? {setting : Setting} {located : Located} {α : Type} {convert : Located → α}
    {value : α} (tabled : root.Tabled) (there : setting.shape.of root.members = .ok part)
    (listed : setting.shape.find part = .ok found)
    (needed : setting.shape.need part found setting.key = .ok located)
    (converted : convert located = value) :
    ((root.held? setting).map fun value => (⟨value, setting.path⟩ : Located)).map convert =
      some value := by
  rw [← setting.lookup_find_of_of tabled there listed, SectionShape.lookup_of_need needed, ← converted]
  rfl

/-- Every setting that is read from a tree is what the tree holds for it. -/
theorem reads_of_ofMembers (tabled : root.Tabled) {settings : Settings}
    (h : Settings.ofMembers root.members = .ok settings) :
    setting.Reads (root.held? setting) settings := by
  unfold Settings.ofMembers at h
  simp only [Except.bind_eq_ok_iff] at h
  obtain ⟨render, inRender, renderFound, ofRender, rowsAt, rowsFound, rows, rowsRead,
    placeholderAt, placeholderFound, placeholder, placeholderRead, h⟩ := h
  obtain ⟨form, inForm, formFound, ofForm, methodAt, methodFound, method, methodRead,
    actionAt, actionFound, action, actionRead, submitAt, submitFound, submitLabel, submitRead, h⟩ := h
  obtain ⟨document, inDocument, documentFound, ofDocument, policyAt, policyFound, policy, policyRead,
    title, titleRead, htmlFound, ofHtml, customCss, cssRead, h⟩ := h
  obtain rfl := Except.ok.inj h
  cases setting with
  | rows => exact map_held? tabled inRender ofRender rowsFound rowsRead
  | placeholder => exact map_held? tabled inRender ofRender placeholderFound placeholderRead
  | method => exact map_held? tabled inForm ofForm methodFound methodRead
  | action => exact map_held? tabled inForm ofForm actionFound actionRead
  | submitLabel => exact map_held? tabled inForm ofForm submitFound submitRead
  | policy => exact map_held? tabled inDocument ofDocument policyFound policyRead
  | title =>
    change Located.text? _ = .ok title
    rw [← Setting.title.lookup_find_of_of tabled inDocument ofDocument]
    exact titleRead
  | customCss =>
    change Located.text? _ = .ok customCss
    rw [← Setting.customCss.lookup_find tabled ofHtml]
    exact cssRead

end Setting

/-! ## Values that carry over convert alike -/

namespace Located

variable {value shown : ConfigValue} {path : KeyPath}

/-- Whether a conversion takes neither arrays nor tables. -/
structure Plain {α : Type} (convert : Located → Except SettingsFault α) : Prop where
  array : ∀ items origin path, ∃ fault, convert ⟨.array items origin, path⟩ = .error fault
  table : ∀ members origin path, ∃ fault, convert ⟨.table members origin, path⟩ = .error fault

theorem plain_size : Plain size := ⟨fun _ _ _ => ⟨_, rfl⟩, fun _ _ _ => ⟨_, rfl⟩⟩

theorem plain_text : Plain text := ⟨fun _ _ _ => ⟨_, rfl⟩, fun _ _ _ => ⟨_, rfl⟩⟩

theorem plain_text? : Plain fun located => text? (some located) :=
  ⟨fun _ _ _ => ⟨_, rfl⟩, fun _ _ _ => ⟨_, rfl⟩⟩

theorem Plain.of_carries {α : Type} {convert : Located → Except SettingsFault α}
    (plain : Plain convert) {result : α} (carries : Carries value shown)
    (h : convert ⟨shown, path⟩ = .ok result) : convert ⟨value, path⟩ = .ok result := by
  cases carries with
  | same => exact h
  | arrays =>
    obtain ⟨fault, refused⟩ := plain.array _ _ path
    cases refused.symm.trans h
  | tables =>
    obtain ⟨fault, refused⟩ := plain.table _ _ path
    cases refused.symm.trans h

/-- A policy may be a table with one key, and then what is laid there has this key alone. -/
theorem policy_of_carries {policy : Policy} (carries : Carries value shown)
    (h : Located.policy ⟨shown, path⟩ = .ok policy) : Located.policy ⟨value, path⟩ = .ok policy := by
  cases carries with
  | same => exact h
  | arrays => cases h
  | @tables members others _ _ occupied distinct kept =>
    match others, members, h with
    | [(only, _)], [(key, _)], h =>
      obtain rfl : key = only := by simpa using kept
      exact h
    | [(only, _)], (one, _) :: (other, _) :: rest, _ =>
      obtain ⟨rfl, rfl, -⟩ : one = only ∧ other = only ∧ _ := by simpa using kept
      simp at distinct

end Located

/-- A value that shows on older layers converts as it does alone, wherever it converts at all. -/
theorem Setting.Reads.of_carried {setting : Setting} {value? now : Option ConfigValue}
    {settings : Settings} (carried : Carried value? now) (h : setting.Reads now settings) :
    setting.Reads value? settings := by
  match value?, carried with
  | none, .inl absent => exact absent ▸ h
  | none, .inr ⟨origin, empty⟩ =>
    subst empty
    cases setting <;> cases h
  | some value, ⟨shown, there, carries⟩ =>
    subst there
    cases setting with
    | rows => exact congrArg some (Located.plain_size.of_carries carries (Option.some.inj h))
    | policy => exact congrArg some (Located.policy_of_carries carries (Option.some.inj h))
    | title | customCss => exact Located.plain_text?.of_carries carries h
    | placeholder | method | action | submitLabel =>
      exact congrArg some (Located.plain_text.of_carries carries (Option.some.inj h))

end Questionnaire
