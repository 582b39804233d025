import Mathlib.Data.List.Induction
import Questionnaire.Proofs.Settings.Extras
import Questionnaire.Proofs.Settings.TableOrder

/-! # The layer that a setting comes from

A setting is read from the highest layer that sets it: the last override of its key, then the last file
with a value for it, then the built-in settings. Extra parameters replace the settings that they name.
-/

namespace Questionnaire

open ConfigValue (foldKey inOrder solid? Carried)

/-! ## Files -/

namespace ConfigFile

/-- The value that a file sets for a setting: what the file leaves when it is laid over nothing, with
its tables visited in an order. -/
def value? (order : Entries.Order String ConfigValue) (file : ConfigFile) (setting : Setting) :
    Option ConfigValue :=
  match file.members with
  | .ok members => ((layMembers (.table [] none) (inOrder order members)).held? setting).bind solid?
  | .error _ => none

end ConfigFile

theorem ConfigValue.tabled_empty : (table [] none).Tabled := nofun

/-- Laying a file: its own value shows if it sets one, and the older value stays otherwise. -/
theorem ConfigFile.carried_layMembers {file : ConfigFile} {members : List (String × ConfigValue)}
    (h : file.members = .ok members) (keeps : file.KeepsSections)
    (order : Entries.Order String ConfigValue) {root : ConfigValue} (tabled : root.Tabled) :
    (layMembers root (inOrder order members)).Tabled ∧
      ∀ (setting : Setting) (older : Option ConfigValue), Carried older (root.held? setting) →
        Carried (file.value? order setting <|> older)
          ((layMembers root (inOrder order members)).held? setting) := by
  have entries := keepsSections_inOrder (keeps members h) order
  obtain ⟨kept, held⟩ := tabled.setAll entries
  obtain ⟨-, alone⟩ := ConfigValue.tabled_empty.setAll entries
  rw [layMembers_eq]
  refine ⟨kept, fun setting older carried => ?_⟩
  rw [value?, h, held]
  change Carried (((layMembers (.table [] none) (inOrder order members)).held? setting).bind solid? <|>
    older) _
  rw [layMembers_eq, alone]
  exact carried.layer _

/-- Laying files one after the other: the last one that sets a setting counts. -/
theorem Loader.carried_layFiles {files : List ConfigFile} (keeps : ∀ file ∈ files, file.KeepsSections)
    {order : Entries.Order String ConfigValue} {root result : ConfigValue} (tabled : root.Tabled)
    (h : Loader.layFiles order root files = .ok result) :
    result.Tabled ∧ ∀ (setting : Setting) (older : Option ConfigValue),
      Carried older (root.held? setting) →
        Carried (files.reverse.findSome? (·.value? order setting) <|> older) (result.held? setting) := by
  induction files generalizing root with
  | nil =>
    obtain rfl := Except.ok.inj h
    exact ⟨tabled, fun _ _ carried => carried⟩
  | cons file rest ih =>
    obtain ⟨here, others⟩ := List.forall_mem_cons.mp keeps
    rw [layFiles, Except.bind_eq_ok_iff] at h
    obtain ⟨members, hm, h⟩ := h
    obtain ⟨kept, step⟩ := ConfigFile.carried_layMembers hm here order tabled
    obtain ⟨last, run⟩ := ih others kept h
    refine ⟨last, fun setting older carried => ?_⟩
    have both := run setting _ (step setting older carried)
    rw [List.reverse_cons, List.findSome?_append, List.findSome?_singleton]
    cases higher : rest.reverse.findSome? (·.value? order setting) with
    | none => simpa [higher] using both
    | some value => simpa [higher] using both

/-! ## Overrides -/

/-- Whether a path leads to a setting, in upper or lower case. -/
def KeyPath.LeadsTo (path : KeyPath) (setting : Setting) : Prop :=
  ∃ part key, path = [.member part, .member key] ∧
    foldKey part = setting.shape.key ∧ foldKey key = setting.key

def Setting.IsNamedBy (setting : Setting) (name : String) : Prop :=
  ∃ path, KeyPath.read? name = some path ∧ path.LeadsTo setting

/-- A setting is named by its section and its key with a dot between them. -/
theorem Setting.isNamedBy_text_path (setting : Setting) : setting.IsNamedBy setting.path.text := by
  refine ⟨setting.path, ?_, _, _, rfl, ?_, ?_⟩ <;> cases setting <;> decide +kernel

/-- What is set at the path to a setting is laid over this setting and no other. -/
theorem KeyPath.LeadsTo.laidBy {path : KeyPath} {here : Setting} (leads : path.LeadsTo here)
    (setting : Setting) (value : ConfigValue) :
    setting.laidBy (path, value) = if here = setting then [([], value)] else [] := by
  obtain ⟨part, key, rfl, hp, hk⟩ := leads
  rw [Setting.laidBy, Setting.laidInSection, hp, hk]
  by_cases same : here = setting
  · simp [same]
  · have apart (part : here.shape.key = setting.shape.key) : here.key ≠ setting.key :=
      fun key => same (Setting.eq_of_same_place part key)
    rw [if_neg same]
    split
    · rename_i part
      exact if_neg (apart part)
    · rfl

theorem KeyPath.LeadsTo.keepsSections {path : KeyPath} {setting : Setting}
    (leads : path.LeadsTo setting) (value : ConfigValue) : path.keepsSections value = true := by
  obtain ⟨part, key, rfl, -⟩ := leads
  simp [KeyPath.keepsSections, KeyPath.keepsTable]

/-- What all entries but those of a key give, where these give nothing. -/
theorem Entries.flatMap_without {κ α β : Type} [BEq κ] [LawfulBEq κ] {key : κ} {f : κ × α → List β}
    (nothing : ∀ value, f (key, value) = []) (entries : Entries κ α) :
    (entries.without key).flatMap f = entries.flatMap f := by
  induction entries with
  | nil => rfl
  | cons entry rest ih =>
    obtain ⟨other, value⟩ := entry
    rw [without] at ih ⊢
    by_cases same : key = other
    · subst same
      rw [List.filter_cons_of_neg (by simp), ih, List.flatMap_cons, nothing]
      rfl
    · rw [List.filter_cons_of_pos (by simpa using same), List.flatMap_cons, ih, List.flatMap_cons]

inductive LoaderStep where
  | file (added : ConfigFile)
  | override (setting : Setting) (value : ConfigValue)

namespace LoaderStep

def files (steps : List LoaderStep) : List ConfigFile :=
  steps.filterMap fun
    | .file added => some added
    | .override .. => none

def overrides (steps : List LoaderStep) : List (Setting × ConfigValue) :=
  steps.filterMap fun
    | .file _ => none
    | .override setting value => some (setting, value)

end LoaderStep

namespace Loader

def take (name : Setting → String) (loader : Loader) : LoaderStep → Except SettingsFault Loader
  | .file file => .ok (loader.addFile file)
  | .override setting value => loader.override (name setting) value

def ofSteps (name : Setting → String) (steps : List LoaderStep) : Except SettingsFault Loader :=
  steps.foldlM (take name) {}

def overrideAll (path : Setting → KeyPath) (asked : List (Setting × ConfigValue))
    (overrides : Entries KeyPath ConfigValue) : Entries KeyPath ConfigValue :=
  asked.foldl (fun kept (setting, value) => kept.without (path setting) ++ [(path setting, value)])
    overrides

variable {name : Setting → String} {path : Setting → KeyPath}

/-- The files and the overrides of a loader do not depend on how its steps were mixed. -/
theorem foldlM_take (named : ∀ setting, KeyPath.read? (name setting) = some (path setting))
    (steps : List LoaderStep) (loader : Loader) :
    steps.foldlM (take name) loader = .ok {
      files := loader.files ++ LoaderStep.files steps
      overrides := overrideAll path (LoaderStep.overrides steps) loader.overrides } := by
  induction steps generalizing loader with
  | nil => simp [LoaderStep.files, LoaderStep.overrides, overrideAll, pure, Except.pure]
  | cons step rest ih =>
    rw [List.foldlM_cons]
    cases step with
    | file file =>
      change rest.foldlM (take name) (loader.addFile file) = _
      rw [ih, addFile, List.append_assoc]
      rfl
    | override setting value =>
      have added : take name loader (.override setting value) = .ok { loader with
          overrides := loader.overrides.without (path setting) ++ [(path setting, value)] } := by
        rw [take, Loader.override, named]
      rw [added]
      exact ih { loader with
        overrides := loader.overrides.without (path setting) ++ [(path setting, value)] }

theorem overrideAll_concat (asked : List (Setting × ConfigValue)) (setting : Setting)
    (value : ConfigValue) (overrides : Entries KeyPath ConfigValue) :
    overrideAll path (asked ++ [(setting, value)]) overrides =
      (overrideAll path asked overrides).without (path setting) ++ [(path setting, value)] :=
  List.foldl_append

theorem exists_of_mem_overrideAll {asked : List (Setting × ConfigValue)}
    {entry : KeyPath × ConfigValue} (h : entry ∈ overrideAll path asked []) :
    ∃ setting, entry.1 = path setting := by
  induction asked using List.reverseRecOn with
  | nil => cases h
  | append_singleton asked last ih =>
    rw [overrideAll_concat] at h
    rcases List.mem_append.mp h with earlier | now
    · exact ih (List.mem_filter.mp earlier).1
    · exact ⟨last.1, congrArg Prod.fst (List.mem_singleton.mp now)⟩

/-- The last override of a setting is what the overrides lay over it. -/
theorem flatMap_overrideAll (leads : ∀ setting, (path setting).LeadsTo setting)
    (asked : List (Setting × ConfigValue)) (setting : Setting) :
    (overrideAll path asked []).flatMap setting.laidBy =
      ((asked.reverse.lookup setting).map fun value => ([], value)).toList := by
  induction asked using List.reverseRecOn with
  | nil => rfl
  | append_singleton asked last ih =>
    obtain ⟨here, value⟩ := last
    rw [overrideAll_concat, List.flatMap_append, List.reverse_concat, List.lookup_cons,
      List.flatMap_singleton, (leads here).laidBy]
    by_cases same : here = setting
    · subst same
      have earlier : ((overrideAll path asked []).without (path here)).flatMap here.laidBy = [] := by
        rw [List.flatMap_eq_nil_iff]
        rintro ⟨_, earlier⟩ hm
        obtain ⟨kept, other⟩ := List.mem_filter.mp hm
        obtain ⟨asked, rfl⟩ := exists_of_mem_overrideAll kept
        rw [(leads asked).laidBy, if_neg]
        rintro rfl
        simp at other
      rw [earlier]
      simp
    · have differs : (setting == here) = false := beq_eq_false_iff_ne.mpr (Ne.symm same)
      rw [Entries.flatMap_without, ih, if_neg same, differs, List.append_nil]
      intro value
      rw [(leads here).laidBy, if_neg same]

end Loader

/-! ## All layers -/

/-- The value of the highest layer that sets a setting: the last override of it, or else the last file
with a value for it, or else the built-in settings. Tables are merged, so an empty one sets nothing. -/
def highest? (order : Entries.Order String ConfigValue) (steps : List LoaderStep) (setting : Setting) :
    Option ConfigValue :=
  ((LoaderStep.overrides steps).reverse.lookup setting).bind
      (fun value => solid? (ConfigValue.overlay value none)) <|>
    (LoaderStep.files steps).reverse.findSome? (·.value? order setting) <|>
    (ConfigValue.table defaultMembers none).held? setting

theorem ConfigValue.tabled_default : (table defaultMembers none).Tabled := by
  intro setting part found
  cases setting <;> cases found <;> exact ⟨_, _, rfl⟩

theorem ConfigValue.carried_default (setting : Setting) :
    Carried ((table defaultMembers none).held? setting)
      ((table defaultMembers none).held? setting) := by
  cases setting
  case title | customCss => exact .inl rfl
  all_goals exact ⟨_, rfl, .same rfl⟩

theorem Loader.keepsSections_of_perm {path : Setting → KeyPath}
    (leads : ∀ setting, (path setting).LeadsTo setting) {asked : List (Setting × ConfigValue)}
    {overrides : Entries KeyPath ConfigValue} (same : overrides.Perm (overrideAll path asked [])) :
    ∀ entry ∈ overrides, entry.1.keepsSections entry.2 = true := by
  intro entry hm
  obtain ⟨setting, he⟩ := exists_of_mem_overrideAll (same.mem_iff.mp hm)
  rw [he]
  exact (leads setting).keepsSections entry.2

/-- What loading gives, for tables that are visited and overrides that are laid in any order. -/
theorem Loader.reads_of_load {path : Setting → KeyPath}
    (leads : ∀ setting, (path setting).LeadsTo setting) {steps : List LoaderStep}
    (keeps : ∀ file ∈ LoaderStep.files steps, file.KeepsSections)
    {overrides : Entries KeyPath ConfigValue}
    (same : overrides.Perm (overrideAll path (LoaderStep.overrides steps) [])) {settings : Settings}
    {order : Entries.Order String ConfigValue}
    (h : Loader.load ⟨LoaderStep.files steps, overrides⟩ order = .ok settings) (setting : Setting) :
    setting.Reads (highest? order steps setting) settings := by
  rw [Loader.load, Except.bind_eq_ok_iff] at h
  obtain ⟨root, laid, h⟩ := h
  obtain ⟨tabled, files⟩ := Loader.carried_layFiles keeps ConfigValue.tabled_default laid
  obtain ⟨kept, held⟩ := tabled.setAll (keepsSections_of_perm leads same)
  rw [Loader.layOverrides_eq] at h
  refine (setting.reads_of_ofMembers kept h).of_carried ?_
  have last : overrides.flatMap setting.laidBy =
      (((LoaderStep.overrides steps).reverse.lookup setting).map fun value => ([], value)).toList := by
    have laid := same.flatMap_right setting.laidBy
    rw [flatMap_overrideAll leads] at laid
    generalize (LoaderStep.overrides steps).reverse.lookup setting = value? at laid ⊢
    cases value? with
    | none => exact List.perm_nil.mp laid
    | some value => exact List.perm_singleton.mp laid
  have alone : (ConfigValue.layAll (overrides.flatMap setting.laidBy) none).bind solid? =
      ((LoaderStep.overrides steps).reverse.lookup setting).bind
        fun value => solid? (ConfigValue.overlay value none) := by
    rw [last]
    cases (LoaderStep.overrides steps).reverse.lookup setting <;> rfl
  rw [held, highest?, ← alone]
  exact (files setting _ (ConfigValue.carried_default setting)).layer _

/-- **Each setting comes from the highest layer that sets it.** Steps add files, with tables in the
place of sections, and override settings, each of them by a name of its own. If what they make can be
loaded at all, every setting is what the value of its highest layer converts to, in whatever order the
tables of files are visited and the overrides are laid; and it does not matter where among the files
they were made. The order of tables does not show at all if no file reaches a setting twice. Extra
parameters that can be read then replace the settings that they name. -/
theorem settings_of_layers (name : Setting → String)
    (named : ∀ setting : Setting, setting.IsNamedBy (name setting)) (steps : List LoaderStep)
    (keeps : ∀ file ∈ LoaderStep.files steps, file.KeepsSections) :
    ∃ loader, Loader.ofSteps name steps = .ok loader ∧
      (∀ order overrides settings, overrides.Perm loader.overrides →
        Loader.load { loader with overrides } order = .ok settings →
          ∀ setting : Setting, setting.Reads (highest? order steps setting) settings) ∧
      ((∀ file ∈ LoaderStep.files steps, file.SetsOnce) →
        ∀ order overrides, overrides.Perm loader.overrides →
          Loader.load { loader with overrides } order = Loader.load { loader with overrides }) ∧
      (∀ mixed, LoaderStep.files mixed = LoaderStep.files steps →
        LoaderStep.overrides mixed = LoaderStep.overrides steps →
          Loader.ofSteps name mixed = .ok loader) ∧
      ∀ (settings : Settings) (extras : Extras), extras.Valid →
        ∃ changed left, settings.applyExtras extras = .ok (changed, left) ∧
          Settings.Replaced extras settings changed := by
  choose path read leads using named
  have made (steps : List LoaderStep) : Loader.ofSteps name steps = _ :=
    Loader.foldlM_take read steps {}
  refine ⟨_, made steps, fun order overrides settings same loaded => ?_,
    fun once order overrides same => ?_, fun mixed files overrides => ?_,
    fun settings extras valid => ?_⟩
  · exact Loader.reads_of_load leads keeps same loaded
  · exact Loader.load_order keeps once (Loader.keepsSections_of_perm leads same) order
  · rw [made, files, overrides]
  · obtain ⟨changed, applied, replaced⟩ := settings.applyExtras_of_valid valid
    exact ⟨changed, extras.leftover, applied, replaced⟩

/-- An override that is made before a file, and the same one made after it. -/
theorem settings_of_layers_override_moved :
    let name (setting : Setting) := setting.path.text
    let file : LoaderStep := .file ⟨"quiz.toml", true,
      .found "quiz.toml" "form.method='get'\ndocument.title='A'"⟩
    let override : LoaderStep := .override .method (.string "put" none)
    ∃ loader settings, Loader.ofSteps name [override, file] = .ok loader ∧
      Loader.ofSteps name [file, override] = .ok loader ∧
      (∀ order, loader.load order = .ok settings) ∧
      settings.method = "put" ∧ settings.title = some "A" := by
  intro name file override
  obtain ⟨loader, made, reads, same, mixed, -⟩ := settings_of_layers name
    Setting.isNamedBy_text_path [override, file] (by decide +kernel)
  have loaded : (Loader.ofSteps name [override, file] >>= fun loader => loader.load) =
      .ok ⟨3, "", "put", "", "", .lenient, some "A", none⟩ := by decide +kernel
  rw [made] at loaded
  have method : some (Except.ok "put" : Except SettingsFault String) = some (.ok _) :=
    reads .asGiven loader.overrides _ (.refl _) loaded .method
  refine ⟨loader, _, made, mixed _ rfl rfl, fun order => ?_,
    (Except.ok.inj (Option.some.inj method)).symm, rfl⟩
  exact (same (by decide +kernel) order loader.overrides (.refl _)).trans loaded

end Questionnaire
