import Questionnaire.Settings.Loader

/-! # What is laid over a setting

Files and overrides are laid over a tree entry by entry. As long as the sections stay tables, the value
of a setting depends on what was there for it and on what the entries lay at its place, and on nothing
else in the tree.
-/

namespace Questionnaire

open ConfigValue (foldKey)

inductive Setting where
  | rows | placeholder | method | action | submitLabel | policy | title | customCss
deriving DecidableEq, Repr

namespace Setting

def all : List Setting := [rows, placeholder, method, action, submitLabel, policy, title, customCss]

theorem mem_all (setting : Setting) : setting ∈ all := by cases setting <;> decide

def shape : Setting → SectionShape
  | rows | placeholder => renderSection
  | method | action | submitLabel => formSection
  | policy | title => documentSection
  | customCss => htmlSection

def key : Setting → String
  | rows => "default_textarea_rows"
  | placeholder => "placeholder_label"
  | method => "method"
  | action => "action"
  | submitLabel => "submit_label"
  | policy => "policy"
  | title => "title"
  | customCss => "custom_css"

def path (setting : Setting) : KeyPath := [.member setting.shape.key, .member setting.key]

theorem eq_of_same_place {one other : Setting} (part : one.shape.key = other.shape.key)
    (key : one.key = other.key) : one = other := by
  cases one <;> cases other <;> first | rfl | simp [Setting.key] at key

end Setting

namespace ConfigValue

/-- The value that a tree holds for a setting. -/
def held? (root : ConfigValue) (setting : Setting) : Option ConfigValue :=
  (root.members.lookup setting.shape.key).bind fun part => part.members.lookup setting.key

/-- Whether the sections that a tree has are tables. -/
def Tabled (root : ConfigValue) : Prop :=
  ∀ (setting : Setting) (part : ConfigValue),
    root.members.lookup setting.shape.key = some part → ∃ members origin, part = .table members origin

/-- Lay a value over an older one, some steps further on. -/
def lay (steps : KeyPath) (value : ConfigValue) (old : Option ConfigValue) : ConfigValue :=
  if steps.isEmpty then overlay value old else setAt steps value (old.getD .unit)

def layAll (laid : List (KeyPath × ConfigValue)) (old : Option ConfigValue) : Option ConfigValue :=
  laid.foldl (fun now (steps, value) => some (lay steps value now)) old

theorem layAll_append (one other : List (KeyPath × ConfigValue)) (old : Option ConfigValue) :
    layAll (one ++ other) old = layAll other (layAll one old) :=
  List.foldl_append

theorem members_getD (old : Option ConfigValue) :
    (old.getD .unit).members = (old.map members).getD [] := by
  cases old <;> rfl

theorem setAt_member (key : String) (steps : KeyPath) (value root : ConfigValue) :
    setAt (.member key :: steps) value root =
      .table (root.members.put (foldKey key) (lay steps value (root.members.lookup (foldKey key))))
        root.tableOrigin? := by
  rw [setAt]
  rfl

/-- A table is laid over the members that were there. -/
theorem members_overlay_table (members : List (String × ConfigValue)) (origin : Option String)
    (old : Option ConfigValue) :
    (overlay (.table members origin) old).members =
      overlayMembers members ((old.map ConfigValue.members).getD []) := by
  cases members with
  | nil => cases old <;> simp [overlay, overlayMembers, ConfigValue.members]
  | cons member rest => simp [overlay, ConfigValue.members]

/-- A member of a merged table: what the members of that key lay over the one that was there. -/
theorem lookup_overlayMembers (members : List (String × ConfigValue)) (old : ConfigMembers)
    (key : String) :
    (overlayMembers members old).lookup key =
      layAll ((members.filter fun member => foldKey member.1 = key).map fun member => ([], member.2))
        (old.lookup key) := by
  induction members generalizing old with
  | nil => simp [overlayMembers, layAll]
  | cons member rest ih =>
    obtain ⟨name, value⟩ := member
    rw [overlayMembers, ih]
    by_cases same : foldKey name = key
    · rw [same, Entries.lookup_put, List.filter_cons_of_pos (by simpa using same)]
      rfl
    · rw [Entries.lookup_put_of_ne (Ne.symm same), List.filter_cons_of_neg (by simpa using same)]

end ConfigValue

def sectionKeys : List String := ["render", "form", "document", "html"]

theorem Setting.shape_key_mem (setting : Setting) : setting.shape.key ∈ sectionKeys := by
  cases setting <;> decide

/-- Whether a section stays a table when a value is set some steps into it: the section itself is given
a table, and no index leads into it. -/
def KeyPath.keepsTable : KeyPath → ConfigValue → Bool
  | [], .table .. => true
  | .member _ :: _, _ => true
  | _, _ => false

def KeyPath.keepsSections : KeyPath → ConfigValue → Bool
  | .member part :: steps, value =>
    !sectionKeys.contains (foldKey part) || KeyPath.keepsTable steps value
  | _, _ => false

namespace Setting

/-- What is laid over a setting when a value is set some steps into its section, with the steps that
lead on. -/
def laidInSection (setting : Setting) : KeyPath → ConfigValue → List (KeyPath × ConfigValue)
  | [], value =>
    (value.members.filter fun member => foldKey member.1 = setting.key).map
      fun member => ([], member.2)
  | .member key :: steps, value => if foldKey key = setting.key then [(steps, value)] else []
  | .item _ :: _, _ => []

/-- What an entry lays over a setting, with the steps that lead on from there. -/
def laidBy (setting : Setting) : KeyPath × ConfigValue → List (KeyPath × ConfigValue)
  | (.member part :: steps, value) =>
    if foldKey part = setting.shape.key then setting.laidInSection steps value else []
  | _ => []

end Setting

namespace ConfigValue

theorem lay_cons (step : KeyStep) (steps : KeyPath) (value : ConfigValue) (old : Option ConfigValue) :
    lay (step :: steps) value old = setAt (step :: steps) value (old.getD .unit) := rfl

/-- What is laid over a table leaves a table, in which a setting changes by what is laid over it. -/
theorem lay_in_section {old : Option ConfigValue}
    (tabled : ∀ part, old = some part → ∃ members origin, part = .table members origin)
    {steps : KeyPath} {value : ConfigValue} (keeps : steps.keepsTable value = true) :
    (∃ members origin, lay steps value old = .table members origin) ∧
      ∀ setting : Setting, (lay steps value old).members.lookup setting.key =
        layAll (setting.laidInSection steps value)
          (old.bind fun part => part.members.lookup setting.key) := by
  have before (key : String) : ((old.map members).getD []).lookup key =
      old.bind fun part => part.members.lookup key := by
    cases old <;> rfl
  match steps, value, keeps with
  | [], .table members origin, _ =>
    refine ⟨?_, fun setting => ?_⟩
    · cases members with
      | cons member rest => exact ⟨_, _, rfl⟩
      | nil =>
        cases old with
        | none => exact ⟨_, _, rfl⟩
        | some part => exact tabled part rfl
    · change (overlay (.table members origin) old).members.lookup setting.key = _
      rw [members_overlay_table, lookup_overlayMembers, before]
      rfl
  | .member key :: steps, value, _ =>
    rw [lay_cons, setAt_member]
    refine ⟨⟨_, _, rfl⟩, fun setting => ?_⟩
    change (Entries.put (foldKey key) _ (old.getD .unit).members).lookup setting.key = _
    rw [members_getD, Setting.laidInSection, before]
    by_cases same : foldKey key = setting.key
    · rw [← same, Entries.lookup_put, if_pos rfl]
      rfl
    · rw [Entries.lookup_put_of_ne (Ne.symm same), before, if_neg same]
      rfl

theorem lookup_setAt (part : String) (steps : KeyPath) (value root : ConfigValue) :
    (setAt (.member part :: steps) value root).members.lookup (foldKey part) =
      some (lay steps value (root.members.lookup (foldKey part))) := by
  rw [setAt_member]
  exact Entries.lookup_put _ _ _

/-- A section that an entry does not name stays. -/
theorem lookup_setAt_of_ne {part key : String} (h : key ≠ foldKey part) (steps : KeyPath)
    (value root : ConfigValue) :
    (setAt (.member part :: steps) value root).members.lookup key = root.members.lookup key := by
  rw [setAt_member]
  exact Entries.lookup_put_of_ne h _ _

/-- An entry that leaves tables in the place of sections changes a setting by what it lays over it. -/
theorem Tabled.setAt {root : ConfigValue} (tabled : root.Tabled) {path : KeyPath}
    {value : ConfigValue} (keeps : path.keepsSections value = true) :
    (setAt path value root).Tabled ∧
      ∀ setting, (setAt path value root).held? setting =
        layAll (setting.laidBy (path, value)) (root.held? setting) := by
  match path, keeps with
  | .member part :: steps, keeps =>
    have table (setting : Setting) (h : setting.shape.key = foldKey part) :
        KeyPath.keepsTable steps value = true := by
      have known := setting.shape_key_mem
      rw [h] at known
      simpa [KeyPath.keepsSections, known] using keeps
    have merged (setting : Setting) (h : setting.shape.key = foldKey part) :=
      lay_in_section (tabled setting) (table setting h)
    refine ⟨fun setting now found => ?_, fun setting => ?_⟩
    · by_cases same : setting.shape.key = foldKey part
      · rw [same, lookup_setAt, ← same] at found
        obtain rfl := Option.some.inj found
        exact (merged setting same).1
      · rw [lookup_setAt_of_ne same] at found
        exact tabled setting now found
    · rw [held?, Setting.laidBy]
      by_cases same : setting.shape.key = foldKey part
      · rw [same, lookup_setAt, ← same, if_pos rfl]
        exact (merged setting same).2 setting
      · rw [lookup_setAt_of_ne same, if_neg (Ne.symm same)]
        rfl

/-! ## Runs of entries -/

def setAll (entries : List (KeyPath × ConfigValue)) (root : ConfigValue) : ConfigValue :=
  entries.foldl (fun root (path, value) => ConfigValue.setAt path value root) root

theorem Tabled.setAll {root : ConfigValue} (tabled : root.Tabled)
    {entries : List (KeyPath × ConfigValue)}
    (keeps : ∀ entry ∈ entries, entry.1.keepsSections entry.2 = true) :
    (setAll entries root).Tabled ∧
      ∀ setting : Setting, (setAll entries root).held? setting =
        layAll (entries.flatMap setting.laidBy) (root.held? setting) := by
  induction entries generalizing root with
  | nil => exact ⟨tabled, fun _ => rfl⟩
  | cons entry rest ih =>
    obtain ⟨here, others⟩ := List.forall_mem_cons.mp keeps
    obtain ⟨kept, step⟩ := tabled.setAt here
    obtain ⟨last, run⟩ := ih kept others
    refine ⟨last, fun setting => ?_⟩
    rw [List.flatMap_cons, layAll_append, ← step]
    exact run setting

end ConfigValue

/-! ## Values that carry over

What a layer gives alone differs from what it leaves on older layers in tables only, which keep members
of the older ones.
-/

namespace ConfigValue

/-- A value, unless it is an empty table, which sets nothing. -/
def solid? : ConfigValue → Option ConfigValue
  | table [] _ => none
  | value => some value

/-- What a value may look like once it was laid over an older one. -/
inductive Carries : ConfigValue → ConfigValue → Prop where
  | same {value : ConfigValue} (leaf : value.members = []) : Carries value value
  | arrays {items others : List ConfigValue} {origin other : Option String} :
      Carries (.array items origin) (.array others other)
  | tables {members others : ConfigMembers} {origin other : Option String} (occupied : members ≠ [])
      (distinct : (members.map Prod.fst).Nodup)
      (kept : ∀ key ∈ members.map Prod.fst, key ∈ others.map Prod.fst) :
      Carries (.table members origin) (.table others other)

/-- What is there for a setting when a value is the highest one that was laid. -/
def Carried : Option ConfigValue → Option ConfigValue → Prop
  | some value, now => ∃ shown, now = some shown ∧ Carries value shown
  | none, now => now = none ∨ ∃ origin, now = some (.table [] origin)

theorem mem_keys_overlayMembers {members : List (String × ConfigValue)} {old : ConfigMembers}
    {key : String} : key ∈ (overlayMembers members old).map Prod.fst ↔
      key ∈ members.map (fun member => foldKey member.1) ∨ key ∈ old.map Prod.fst := by
  induction members generalizing old with
  | nil => simp [overlayMembers]
  | cons member rest ih =>
    rw [overlayMembers, ih, Entries.mem_keys_put, List.map_cons, List.mem_cons]
    exact (or_left_comm).trans or_assoc.symm

theorem nodup_keys_overlayMembers (members : List (String × ConfigValue)) {old : ConfigMembers}
    (distinct : (old.map Prod.fst).Nodup) : ((overlayMembers members old).map Prod.fst).Nodup := by
  induction members generalizing old with
  | nil => simpa [overlayMembers] using distinct
  | cons member rest ih =>
    rw [overlayMembers]
    exact ih (Entries.nodup_keys_put distinct _ _)

namespace Carried

variable {older alone now : Option ConfigValue}

theorem getD_empty (h : Carried older now) : Carried older (some (now.getD (.table [] none))) := by
  match older, h with
  | some value, ⟨shown, hs, carries⟩ => exact ⟨shown, by rw [hs]; rfl, carries⟩
  | none, .inl absent => exact .inr ⟨none, by rw [absent]; rfl⟩
  | none, .inr ⟨origin, empty⟩ => exact .inr ⟨origin, by rw [empty]; rfl⟩

/-- The members that a layer gives alone are there on older layers as well. -/
theorem keys (h : Carried (alone.bind solid? <|> older) now) :
    (((alone.map members).getD []).map Prod.fst).Nodup ∧
      ∀ key ∈ ((alone.map members).getD []).map Prod.fst,
        key ∈ ((now.map members).getD []).map Prod.fst := by
  match alone with
  | none => simp
  | some (.table [] _) => simp [members]
  | some (.table (member :: rest) _) =>
    obtain ⟨shown, rfl, carries⟩ := h
    cases carries with
    | same leaf => simp [members] at leaf
    | tables occupied distinct kept => exact ⟨distinct, kept⟩
  | some .unit | some (.boolean ..) | some (.integer ..) | some (.double ..) | some (.string ..)
  | some (.array ..) => simp [members]

/-- A layer that gives a table shows in the table that is there, if that has its keys. -/
theorem of_tables {members others : ConfigMembers} {origin other : Option String} {key : String}
    (occupied : key ∈ members.map Prod.fst) (distinct : (members.map Prod.fst).Nodup)
    (kept : ∀ key ∈ members.map Prod.fst, key ∈ others.map Prod.fst) :
    Carried (solid? (.table members origin) <|> older) (some (.table others other)) := by
  cases members with
  | nil => simp at occupied
  | cons member rest => exact ⟨_, rfl, .tables (List.cons_ne_nil _ _) distinct kept⟩

/-- Laying one more value: what the layer gives alone stays what shows in it on older layers. -/
theorem lay (h : Carried (alone.bind solid? <|> older) now) (steps : KeyPath) (value : ConfigValue) :
    Carried (solid? (lay steps value alone) <|> older) (some (ConfigValue.lay steps value now)) := by
  obtain ⟨distinct, kept⟩ := h.keys
  match steps, value with
  | [], .table [] origin =>
    have unchanged : solid? (alone.getD (.table [] none)) = alone.bind solid? := by
      cases alone <;> rfl
    change Carried (solid? (alone.getD (.table [] none)) <|> older) _
    rw [unchanged]
    exact h.getD_empty
  | [], .table (member :: rest) origin =>
    have first (old : ConfigMembers) :
        foldKey member.1 ∈ (overlayMembers (member :: rest) old).map Prod.fst :=
      mem_keys_overlayMembers.mpr (.inl (List.mem_cons_self ..))
    refine of_tables (first _) (nodup_keys_overlayMembers _ distinct) fun key => ?_
    rw [mem_keys_overlayMembers, mem_keys_overlayMembers]
    exact Or.imp_right (kept key)
  | [], .unit | [], .boolean .. | [], .integer .. | [], .double .. | [], .string ..
  | [], .array .. => exact ⟨_, rfl, .same rfl⟩
  | .member name :: steps, value =>
    rw [lay_cons, lay_cons, setAt_member, setAt_member, members_getD, members_getD]
    refine of_tables (Entries.mem_keys_put.mpr (.inl rfl)) (Entries.nodup_keys_put distinct _ _)
      fun key => ?_
    rw [Entries.mem_keys_put, Entries.mem_keys_put]
    exact Or.imp_right (kept key)
  | .item index :: steps, value => exact ⟨_, rfl, .arrays⟩

/-- Laying a run of values. -/
theorem layAll (h : Carried (alone.bind solid? <|> older) now) (laid : List (KeyPath × ConfigValue)) :
    Carried ((layAll laid alone).bind solid? <|> older) (ConfigValue.layAll laid now) := by
  induction laid generalizing alone now with
  | nil => exact h
  | cons entry rest ih => exact ih (h.lay entry.1 entry.2)

/-- What a run of values gives alone is carried on whatever was carried before. -/
theorem layer (h : Carried older now) (laid : List (KeyPath × ConfigValue)) :
    Carried ((ConfigValue.layAll laid none).bind solid? <|> older) (ConfigValue.layAll laid now) :=
  @layAll older none now h laid

end Carried
end ConfigValue

def filePath (key : String) : KeyPath := (KeyPath.read? key).getD [.member key]

def fileEntries (members : List (String × ConfigValue)) : List (KeyPath × ConfigValue) :=
  members.map fun member => (filePath member.1, member.2)

theorem layMembers_eq (root : ConfigValue) (members : List (String × ConfigValue)) :
    layMembers root members = ConfigValue.setAll (fileEntries members) root := by
  induction members generalizing root with
  | nil => rfl
  | cons member rest ih => exact ih _

theorem Loader.layOverrides_eq (root : ConfigValue) (overrides : List (KeyPath × ConfigValue)) :
    Loader.layOverrides root overrides = ConfigValue.setAll overrides root := by
  induction overrides generalizing root with
  | nil => rfl
  | cons entry rest ih => exact ih _

end Questionnaire
