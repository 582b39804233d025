import Mathlib.Data.List.Perm.Basic
import Questionnaire.Proofs.Settings.Reading

/-! # The order in which tables are visited

The tables of a file keep no order. Where a file reaches no setting twice, the order in which they are
visited shows in the order of members alone, and settings are read from members by their keys: so the
file can be loaded just if it can be loaded as it is written, and it gives the same settings.
-/

namespace Questionnaire

open ConfigValue (foldKey lay layAll inOrder visitedMembers)

/-! ## Members in any order -/

namespace ConfigValue

variable (order : Entries.Order String ConfigValue)

theorem visitedMembers_eq_map (members : List (String × ConfigValue)) :
    visitedMembers order members = members.map fun member => (member.1, member.2.visited order) := by
  induction members with
  | nil => rfl
  | cons member rest ih => rw [visitedMembers, ih, List.map_cons]

theorem inOrder_perm (members : List (String × ConfigValue)) :
    (inOrder order members).Perm
      (members.map fun member => (member.1, member.2.visited order)) := by
  rw [← visitedMembers_eq_map]
  exact order.perm _

theorem members_visited (value : ConfigValue) :
    (value.visited order).members.Perm
      (value.members.map fun member => (member.1, member.2.visited order)) := by
  cases value with
  | table members origin => exact inOrder_perm order members
  | _ => exact .refl _

mutual
theorem visited_asGiven : ∀ value : ConfigValue, value.visited .asGiven = value
  | .table members origin => by
    rw [visited, visitedMembers_asGiven]
    rfl
  | .unit | .boolean .. | .integer .. | .double .. | .string .. | .array .. => by
    rw [visited]
    simp

theorem visitedMembers_asGiven :
    ∀ members : List (String × ConfigValue), visitedMembers .asGiven members = members
  | [] => rfl
  | (key, value) :: rest => by rw [visitedMembers, visited_asGiven, visitedMembers_asGiven]
end

theorem inOrder_asGiven (members : List (String × ConfigValue)) :
    inOrder .asGiven members = members := visitedMembers_asGiven members

/-- A table stays one, so what keeps sections is the same in every order. -/
theorem keepsSections_visited (path : KeyPath) (value : ConfigValue) :
    path.keepsSections (value.visited order) = path.keepsSections value := by
  match path with
  | [] => rfl
  | .item _ :: _ => rfl
  | [.member _] => cases value <;> rfl
  | .member _ :: .member _ :: _ => rfl
  | .member _ :: .item _ :: _ => rfl

theorem laidInSection_visited (setting : Setting) (steps : KeyPath) (value : ConfigValue) :
    (setting.laidInSection steps (value.visited order)).Perm
      ((setting.laidInSection steps value).map fun laid => (laid.1, laid.2.visited order)) := by
  cases steps with
  | nil =>
    rw [Setting.laidInSection, Setting.laidInSection]
    refine (((members_visited order value).filter _).map _).trans ?_
    rw [List.filter_map, List.map_map, List.map_map]
    exact .refl _
  | cons step steps =>
    cases step with
    | item index => exact .refl _
    | member key =>
      rw [Setting.laidInSection, Setting.laidInSection]
      split <;> exact .refl _

/-- What an entry lays over a setting is the same in every order, up to the order within it. -/
theorem laidBy_visited (setting : Setting) (path : KeyPath) (value : ConfigValue) :
    (setting.laidBy (path, value.visited order)).Perm
      ((setting.laidBy (path, value)).map fun laid => (laid.1, laid.2.visited order)) := by
  cases path with
  | nil => exact .refl _
  | cons step steps =>
    cases step with
    | item index => exact .refl _
    | member part =>
      rw [Setting.laidBy, Setting.laidBy]
      split
      · exact laidInSection_visited order setting steps value
      · exact .refl _

end ConfigValue

/-! ## Values alike up to the order of members -/

namespace ConfigValue

/-- Values that differ inside tables and arrays alone, where tables have the same keys. -/
inductive Alike : ConfigValue → ConfigValue → Prop where
  | same {value : ConfigValue} (leaf : value.members = []) : Alike value value
  | arrays {items others : List ConfigValue} {origin : Option String} :
      Alike (.array items origin) (.array others origin)
  | tables {members others : ConfigMembers} {origin : Option String}
      (distinct : (members.map Prod.fst).Nodup)
      (keys : (members.map Prod.fst).Perm (others.map Prod.fst)) :
      Alike (.table members origin) (.table others origin)

variable {one other : ConfigValue} {one? other? : Option ConfigValue}

theorem Alike.keys (h : Alike one other) :
    (one.members.map Prod.fst).Nodup ∧ (one.members.map Prod.fst).Perm (other.members.map Prod.fst) := by
  cases h with
  | same leaf => simp [leaf]
  | arrays => exact ⟨.nil, .refl _⟩
  | tables distinct keys => exact ⟨distinct, keys⟩

theorem Alike.origins (h : Alike one other) :
    one.tableOrigin? = other.tableOrigin? ∧ one.arrayOrigin? = other.arrayOrigin? := by
  cases h <;> exact ⟨rfl, rfl⟩

/-- What was there before a value was laid, with nothing in the place of an empty value. -/
theorem Alike.getD (h : Option.Rel Alike one? other?) :
    Alike (one?.getD .unit) (other?.getD .unit) := by
  cases h with
  | none => exact .same rfl
  | some alike => exact alike

/-- Tables are alike that got the same keys on top of alike values. -/
theorem Alike.of_keys {members others : ConfigMembers} {origin : Option String}
    (h : Alike one other) (keys : List String) (distinct : (members.map Prod.fst).Nodup)
    (distinct' : (others.map Prod.fst).Nodup)
    (has : ∀ key, key ∈ members.map Prod.fst ↔ key ∈ keys ∨ key ∈ one.members.map Prod.fst)
    (has' : ∀ key, key ∈ others.map Prod.fst ↔ key ∈ keys ∨ key ∈ other.members.map Prod.fst) :
    Alike (.table members origin) (.table others origin) := by
  refine .tables distinct ((List.perm_ext_iff_of_nodup distinct distinct').mpr fun key => ?_)
  rw [has, has', h.keys.2.mem_iff]

theorem Alike.of_overlay (h : Alike one other) {members others : List (String × ConfigValue)}
    {origin : Option String}
    (same : (others.map fun member => foldKey member.1).Perm
      (members.map fun member => foldKey member.1)) :
    Alike (.table (overlayMembers members one.members) origin)
      (.table (overlayMembers others other.members) origin) := by
  obtain ⟨distinct, keys⟩ := h.keys
  refine h.of_keys (members.map fun member => foldKey member.1)
    (nodup_keys_overlayMembers members distinct)
    (nodup_keys_overlayMembers others (keys.nodup_iff.mp distinct)) (fun key => ?_) fun key => ?_
  · rw [mem_keys_overlayMembers]
  · rw [mem_keys_overlayMembers, same.mem_iff]

theorem overlay_table {members : List (String × ConfigValue)} (occupied : members ≠ [])
    (origin : Option String) (old? : Option ConfigValue) :
    overlay (.table members origin) old? =
      .table (overlayMembers members (old?.getD .unit).members) (old?.getD .unit).tableOrigin? := by
  obtain ⟨member, rest, rfl⟩ := List.exists_cons_of_ne_nil occupied
  cases old? <;> rfl

theorem lay_of_leaf {value : ConfigValue} (leaf : ∀ members origin, value ≠ .table members origin)
    (old? : Option ConfigValue) : lay [] value old? = value := by
  cases value with
  | table members origin => exact absurd rfl (leaf members origin)
  | _ => rfl

/-- A table that holds something is merged into values alike in any order. -/
theorem Alike.overlay_table (h : Option.Rel Alike one? other?)
    (order : Entries.Order String ConfigValue) {members : List (String × ConfigValue)}
    (occupied : members ≠ []) (origin : Option String) :
    Alike (overlay (.table members origin) one?)
      (overlay (.table (inOrder order members) origin) other?) := by
  have before := Alike.getD h
  have visits := inOrder_perm order members
  have occupied' : inOrder order members ≠ [] := by
    intro none
    rw [none] at visits
    exact occupied (List.map_eq_nil_iff.mp visits.symm.eq_nil)
  have same : ((inOrder order members).map fun member => foldKey member.1).Perm
      (members.map fun member => foldKey member.1) := by
    have mapped := visits.map fun member => foldKey member.1
    rwa [List.map_map] at mapped
  rw [ConfigValue.overlay_table occupied, ConfigValue.overlay_table occupied', before.origins.1]
  exact before.of_overlay same

/-- Laying a value, with its tables visited in any order, keeps what was there alike. -/
theorem Alike.lay (h : Option.Rel Alike one? other?) (order : Entries.Order String ConfigValue)
    (steps : KeyPath) (value : ConfigValue) :
    Alike (lay steps value one?) (ConfigValue.lay steps (value.visited order) other?) := by
  have before := Alike.getD h
  obtain ⟨distinct, keys⟩ := before.keys
  have distinct' := keys.nodup_iff.mp distinct
  match steps, value with
  | .item index :: steps, value =>
    rw [lay_cons, lay_cons, setAt, setAt, before.origins.2]
    exact .arrays
  | .member name :: steps, value =>
    rw [lay_cons, lay_cons, setAt_member, setAt_member, before.origins.1]
    refine before.of_keys [foldKey name] (Entries.nodup_keys_put distinct _ _)
      (Entries.nodup_keys_put distinct' _ _) (fun key => ?_) fun key => ?_ <;>
      rw [Entries.mem_keys_put, List.mem_singleton]
  | [], .table [] origin =>
    rw [visited, visitedMembers, (order.perm []).eq_nil]
    cases h with
    | none => exact .same rfl
    | some alike => exact alike
  | [], .table (member :: rest) origin =>
    rw [visited]
    exact Alike.overlay_table h order (List.cons_ne_nil member rest) origin
  | [], .unit | [], .boolean .. | [], .integer .. | [], .double .. | [], .string ..
  | [], .array .. =>
    rw [visited, lay_of_leaf (by simp), lay_of_leaf (by simp)]
    · exact .same rfl
    · simp

end ConfigValue

/-! ## Settings read from values alike -/

open ConfigValue (Alike)

namespace Located

variable {one other : ConfigValue}

theorem size_alike (h : Alike one other) (path : KeyPath) :
    size ⟨one, path⟩ = size ⟨other, path⟩ := by
  cases h <;> rfl

theorem text_alike (h : Alike one other) (path : KeyPath) :
    text ⟨one, path⟩ = text ⟨other, path⟩ := by
  cases h <;> rfl

theorem policy_alike (h : Alike one other) (path : KeyPath) :
    policy ⟨one, path⟩ = policy ⟨other, path⟩ := by
  cases h with
  | same => rfl
  | arrays => rfl
  | @tables members others origin distinct keys =>
    have lengths := keys.length_eq
    match members, others, keys, lengths with
    | [], [], _, _ => rfl
    | [(key, _)], [(only, _)], keys, _ =>
      obtain rfl : key = only := by simpa using keys
      rfl
    | _ :: _ :: _, _ :: _ :: _, _, _ => rfl

theorem text?_alike {one? other? : Option ConfigValue} (h : Option.Rel Alike one? other?)
    (path : KeyPath) :
    text? (one?.map fun value => ⟨value, path⟩) = text? (other?.map fun value => ⟨value, path⟩) := by
  cases h with
  | none => rfl
  | some alike => cases alike <;> rfl

end Located

/-! ## Trees with all sections -/

def ConfigValue.Sectioned (root : ConfigValue) : Prop :=
  ∀ setting : Setting, ∃ members origin,
    root.members.lookup setting.shape.key = some (.table members origin)

theorem ConfigValue.Sectioned.tabled {root : ConfigValue} (h : root.Sectioned) : root.Tabled := by
  intro setting part found
  obtain ⟨members, origin, there⟩ := h setting
  exact ⟨members, origin, Option.some.inj (found.symm.trans there)⟩

namespace Setting

def located? (setting : Setting) (value? : Option ConfigValue) : Option Located :=
  value?.map fun value => ⟨value, setting.path⟩

def needed (setting : Setting) (value? : Option ConfigValue) : Except SettingsFault Located :=
  match setting.located? value? with
  | some located => .ok located
  | none => .error (.misfit ("missing field `" ++ setting.key ++ "`"))

def converted {α : Type} (setting : Setting) (convert : Located → Except SettingsFault α)
    (value? : Option ConfigValue) : Except SettingsFault α :=
  setting.needed value? >>= convert

theorem needed_bind {α β : Type} (setting : Setting) (convert : Located → Except SettingsFault α)
    (value? : Option ConfigValue) (next : α → Except SettingsFault β) :
    (setting.needed value? >>= fun located => convert located >>= next) =
      setting.converted convert value? >>= next :=
  (bind_assoc ..).symm

theorem converted_alike {α : Type} {convert : Located → Except SettingsFault α}
    (alike : ∀ one other, Alike one other → ∀ path, convert ⟨one, path⟩ = convert ⟨other, path⟩)
    (setting : Setting) {one? other? : Option ConfigValue} (h : Option.Rel Alike one? other?) :
    setting.converted convert one? = setting.converted convert other? := by
  cases h with
  | none => rfl
  | some same => exact alike _ _ same _

/-- What is found in a section that is there. -/
theorem find_section {root : ConfigValue} (sectioned : root.Sectioned) (setting : Setting) :
    ∃ part found, root.members.lookup setting.shape.key = some part ∧
      setting.shape.of root.members = .ok part ∧ setting.shape.find part = .ok found ∧
      ∀ other : Setting, other.shape = setting.shape →
        found.lookup other.key = other.located? (root.held? other) ∧
        setting.shape.need part found other.key = other.needed (root.held? other) := by
  obtain ⟨members, origin, there⟩ := sectioned setting
  have inSection : setting.shape.of root.members = .ok (.table members origin) := by
    rw [SectionShape.of, there]
  obtain ⟨found, listed⟩ : ∃ found, setting.shape.find (.table members origin) = .ok found :=
    ⟨_, rfl⟩
  refine ⟨_, found, there, inSection, listed, fun other same => ?_⟩
  have held : found.lookup other.key = other.located? (root.held? other) :=
    other.lookup_find_of_of sectioned.tabled (same ▸ inSection) (same ▸ listed)
  refine ⟨held, ?_⟩
  unfold SectionShape.need needed
  cases there' : other.located? (root.held? other) with
  | none => rw [held, there']
  | some located => rw [held, there']

end Setting

/-- The settings that values make, one value for each setting. -/
def Settings.ofHeld (held? : Setting → Option ConfigValue) : Except SettingsFault Settings := do
  let rows ← Setting.rows.converted Located.size (held? .rows)
  let placeholder ← Setting.placeholder.converted Located.text (held? .placeholder)
  let method ← Setting.method.converted Located.text (held? .method)
  let action ← Setting.action.converted Located.text (held? .action)
  let submitLabel ← Setting.submitLabel.converted Located.text (held? .submitLabel)
  let policy ← Setting.policy.converted Located.policy (held? .policy)
  let title ← Located.text? (Setting.title.located? (held? .title))
  let customCss ← Located.text? (Setting.customCss.located? (held? .customCss))
  return { rows, placeholder, method, action, submitLabel, policy, title, customCss }

theorem Settings.ofHeld_alike {one? other? : Setting → Option ConfigValue}
    (h : ∀ setting, Option.Rel Alike (one? setting) (other? setting)) :
    Settings.ofHeld one? = Settings.ofHeld other? := by
  have texts (setting : Setting) :=
    setting.converted_alike (fun _ _ => Located.text_alike) (h setting)
  have title := Located.text?_alike (h .title) Setting.title.path
  have customCss := Located.text?_alike (h .customCss) Setting.customCss.path
  unfold Settings.ofHeld Setting.located?
  rw [Setting.rows.converted_alike (fun _ _ => Located.size_alike) (h .rows),
    Setting.policy.converted_alike (fun _ _ => Located.policy_alike) (h .policy), title, customCss]
  simp only [texts]

/-- A tree with all sections is read setting by setting. -/
theorem Settings.ofMembers_eq {root : ConfigValue} (sectioned : root.Sectioned) :
    Settings.ofMembers root.members = Settings.ofHeld root.held? := by
  obtain ⟨_, _, -, ofRender, findRender, inRender⟩ := Setting.rows.find_section sectioned
  obtain ⟨_, _, -, ofForm, findForm, inForm⟩ := Setting.method.find_section sectioned
  obtain ⟨_, _, -, ofDocument, findDocument, inDocument⟩ := Setting.policy.find_section sectioned
  obtain ⟨_, _, html, -, findHtml, inHtml⟩ := Setting.customCss.find_section sectioned
  have next {α β : Type} (value : α) (step : α → Except SettingsFault β) :
      (Except.ok value >>= step) = step value := rfl
  have rows := (inRender .rows rfl).2
  have placeholder := (inRender .placeholder rfl).2
  have method := (inForm .method rfl).2
  have action := (inForm .action rfl).2
  have submitLabel := (inForm .submitLabel rfl).2
  have policy := (inDocument .policy rfl).2
  have title := (inDocument .title rfl).1
  have customCss := (inHtml .customCss rfl).1
  simp only [Setting.shape, Setting.key] at *
  unfold Settings.ofMembers Settings.ofHeld
  simp only [ofRender, findRender, ofForm, findForm, ofDocument, findDocument, next, rows, placeholder,
    method, action, submitLabel, policy, title, Setting.needed_bind]
  rw [show htmlSection.key = "html" from rfl] at html
  simp only [html, Option.getD_some, findHtml, next, customCss]

/-! ## Layers in any order -/

namespace ConfigValue

variable {root one other : ConfigValue} {path : KeyPath} {value : ConfigValue}
  {entries others : List (KeyPath × ConfigValue)}

theorem Sectioned.setAt (sectioned : root.Sectioned) (keeps : path.keepsSections value = true) :
    (setAt path value root).Sectioned := by
  intro setting
  match path, keeps with
  | .member part :: steps, keeps =>
    have there : ∃ part', (ConfigValue.setAt (.member part :: steps) value root).members.lookup
        setting.shape.key = some part' := by
      by_cases same : setting.shape.key = foldKey part
      · rw [same, lookup_setAt]
        exact ⟨_, rfl⟩
      · obtain ⟨members, origin, before⟩ := sectioned setting
        rw [lookup_setAt_of_ne same, before]
        exact ⟨_, rfl⟩
    obtain ⟨part', found⟩ := there
    obtain ⟨members, origin, rfl⟩ := (sectioned.tabled.setAt keeps).1 setting part' found
    exact ⟨members, origin, found⟩

theorem Sectioned.setAll (sectioned : root.Sectioned)
    (keeps : ∀ entry ∈ entries, entry.1.keepsSections entry.2 = true) :
    (setAll entries root).Sectioned := by
  induction entries generalizing root with
  | nil => exact sectioned
  | cons entry rest ih =>
    obtain ⟨here, others⟩ := List.forall_mem_cons.mp keeps
    exact ih (sectioned.setAt here) others

/-- Trees with all sections, which hold values alike for every setting. -/
structure SettledAlike (one other : ConfigValue) : Prop where
  sectioned : one.Sectioned
  sectioned' : other.Sectioned
  held : ∀ setting : Setting, Option.Rel Alike (one.held? setting) (other.held? setting)

theorem SettledAlike.ofMembers_eq (h : SettledAlike one other) :
    Settings.ofMembers one.members = Settings.ofMembers other.members := by
  rw [Settings.ofMembers_eq h.sectioned, Settings.ofMembers_eq h.sectioned',
    Settings.ofHeld_alike h.held]

/-- Laying values one after the other, with their tables visited in any order. -/
theorem layAll_alike {one? other? : Option ConfigValue} (h : Option.Rel Alike one? other?)
    (order : Entries.Order String ConfigValue) (laid : List (KeyPath × ConfigValue)) :
    Option.Rel Alike (layAll laid one?)
      (layAll (laid.map fun laid => (laid.1, laid.2.visited order)) other?) := by
  induction laid generalizing one? other? with
  | nil => exact h
  | cons laid rest ih => exact ih (.some (Alike.lay h order laid.1 laid.2))

theorem SettledAlike.setAll (h : SettledAlike one other) (order : Entries.Order String ConfigValue)
    (keeps : ∀ entry ∈ entries, entry.1.keepsSections entry.2 = true)
    (keeps' : ∀ entry ∈ others, entry.1.keepsSections entry.2 = true)
    (same : ∀ setting : Setting, others.flatMap setting.laidBy =
      (entries.flatMap setting.laidBy).map fun laid => (laid.1, laid.2.visited order)) :
    SettledAlike (setAll entries one) (ConfigValue.setAll others other) := by
  refine ⟨h.sectioned.setAll keeps, h.sectioned'.setAll keeps', fun setting => ?_⟩
  rw [(h.sectioned.tabled.setAll keeps).2, (h.sectioned'.tabled.setAll keeps').2, same]
  exact layAll_alike (h.held setting) order _

end ConfigValue

open ConfigValue (SettledAlike)

/-- What a file lays over a setting in some order: the same, up to this order. -/
theorem fileEntries_inOrder (order : Entries.Order String ConfigValue)
    (members : List (String × ConfigValue)) :
    (fileEntries (inOrder order members)).Perm
      ((fileEntries members).map fun entry => (entry.1, entry.2.visited order)) := by
  have mapped := (ConfigValue.inOrder_perm order members).map
    fun member => (filePath member.1, member.2)
  rw [List.map_map] at mapped
  rw [fileEntries, fileEntries, List.map_map]
  exact mapped

theorem keepsSections_inOrder {members : List (String × ConfigValue)}
    (keeps : ∀ entry ∈ fileEntries members, entry.1.keepsSections entry.2 = true)
    (order : Entries.Order String ConfigValue) :
    ∀ entry ∈ fileEntries (inOrder order members), entry.1.keepsSections entry.2 = true := by
  intro entry hm
  obtain ⟨written, hw, rfl⟩ := List.mem_map.mp ((fileEntries_inOrder order members).mem_iff.mp hm)
  rw [ConfigValue.keepsSections_visited]
  exact keeps written hw

theorem laid_inOrder (order : Entries.Order String ConfigValue)
    (members : List (String × ConfigValue)) (setting : Setting) :
    ((fileEntries (inOrder order members)).flatMap setting.laidBy).Perm
      (((fileEntries members).flatMap setting.laidBy).map
        fun laid => (laid.1, laid.2.visited order)) := by
  refine ((fileEntries_inOrder order members).flatMap_right _).trans ?_
  rw [List.flatMap_map, List.map_flatMap]
  exact List.Perm.flatMap_left _ fun entry _ => ConfigValue.laidBy_visited order setting _ _

namespace ConfigFile

/-- Whether every section that a file has is a table. -/
def KeepsSections (file : ConfigFile) : Prop :=
  ∀ members, file.members = .ok members →
    ∀ entry ∈ fileEntries members, entry.1.keepsSections entry.2 = true

/-- Whether a file reaches no setting twice, as by keys that differ in case, or by a path as a key
beside a section. -/
def SetsOnce (file : ConfigFile) : Prop :=
  ∀ members, file.members = .ok members →
    ∀ setting ∈ Setting.all, ((fileEntries members).flatMap setting.laidBy).length ≤ 1

theorem forall_members_iff {file : ConfigFile} {p : List (String × ConfigValue) → Prop}
    [DecidablePred p] : (∀ members, file.members = .ok members → p members) ↔
      (file.members.toOption.all fun members => decide (p members)) = true := by
  cases file.members with
  | error fault => exact ⟨fun _ => rfl, fun _ => nofun⟩
  | ok members =>
    refine ⟨fun all => decide_eq_true (all members rfl), fun all => ?_⟩
    rintro _ ⟨⟩
    exact of_decide_eq_true all

instance (file : ConfigFile) : Decidable file.KeepsSections :=
  decidable_of_iff _ forall_members_iff.symm

instance (file : ConfigFile) : Decidable file.SetsOnce :=
  decidable_of_iff _ forall_members_iff.symm

end ConfigFile

theorem ConfigValue.SettledAlike.layMembers {one other : ConfigValue} (h : SettledAlike one other)
    {members : List (String × ConfigValue)}
    (keeps : ∀ entry ∈ fileEntries members, entry.1.keepsSections entry.2 = true)
    (once : ∀ setting ∈ Setting.all, ((fileEntries members).flatMap setting.laidBy).length ≤ 1)
    (order : Entries.Order String ConfigValue) :
    SettledAlike (layMembers one members) (layMembers other (inOrder order members)) := by
  rw [layMembers_eq, layMembers_eq]
  refine h.setAll order keeps (keepsSections_inOrder keeps order) fun setting => ?_
  have laid := laid_inOrder order members setting
  have few := once setting setting.mem_all
  generalize (fileEntries members).flatMap setting.laidBy = written at laid few ⊢
  match written, few with
  | [], _ => exact laid.eq_nil
  | [_], _ => exact List.perm_singleton.mp laid

/-- Whether files are refused does not depend on the order, nor do settings on what they leave. -/
theorem Loader.layFiles_alike {files : List ConfigFile} (keeps : ∀ file ∈ files, file.KeepsSections)
    (once : ∀ file ∈ files, file.SetsOnce) {one other : ConfigValue} (h : SettledAlike one other)
    (order : Entries.Order String ConfigValue) :
    (∃ fault, layFiles .asGiven one files = .error fault ∧
      layFiles order other files = .error fault) ∨
    ∃ root root', layFiles .asGiven one files = .ok root ∧ layFiles order other files = .ok root' ∧
      SettledAlike root root' := by
  induction files generalizing one other with
  | nil => exact .inr ⟨one, other, rfl, rfl, h⟩
  | cons file rest ih =>
    obtain ⟨keep, others⟩ := List.forall_mem_cons.mp keeps
    obtain ⟨here, more⟩ := List.forall_mem_cons.mp once
    rw [layFiles, layFiles]
    cases found : file.members with
    | error fault => exact .inl ⟨fault, rfl, rfl⟩
    | ok members =>
      have laid : SettledAlike (layMembers one (inOrder .asGiven members))
          (layMembers other (inOrder order members)) := by
        rw [ConfigValue.inOrder_asGiven]
        exact h.layMembers (keep members found) (here members found) order
      exact ih others more laid

theorem ConfigValue.settledAlike_default :
    SettledAlike (table defaultMembers none) (table defaultMembers none) := by
  have sectioned : (table defaultMembers none).Sectioned := by
    intro setting
    cases setting <;> exact ⟨_, _, rfl⟩
  refine ⟨sectioned, sectioned, fun setting => ?_⟩
  cases setting
  case title | customCss => exact .none
  all_goals exact .some (.same rfl)

/-- Loading goes the same in every order in which tables are visited, if no file reaches a setting
twice. -/
theorem Loader.load_order {loader : Loader} (keeps : ∀ file ∈ loader.files, file.KeepsSections)
    (once : ∀ file ∈ loader.files, file.SetsOnce)
    (overrides : ∀ entry ∈ loader.overrides, entry.1.keepsSections entry.2 = true)
    (order : Entries.Order String ConfigValue) : loader.load order = loader.load := by
  unfold load
  obtain ⟨fault, refused, refused'⟩ | ⟨root, root', laid, laid', alike⟩ :=
    layFiles_alike keeps once ConfigValue.settledAlike_default order
  · rw [refused, refused']
  · rw [laid, laid']
    change Settings.ofMembers _ = Settings.ofMembers _
    rw [layOverrides_eq, layOverrides_eq]
    refine (alike.setAll .asGiven overrides overrides fun setting => ?_).ofMembers_eq.symm
    simp [ConfigValue.visited_asGiven]

end Questionnaire
