import Questionnaire.Proofs.Command.Rendering
import Questionnaire.Proofs.Command.Splitting
import Questionnaire.Proofs.Settings.Leftover
import Questionnaire.Proofs.Settings.TableOrder

/-! # Where the orders of a platform show

The tables of configuration files and the parameters of a format keep no order. In a directory where no
configuration file reaches a setting twice, the first order does not show, and with at most one
parameter that pages do not know, neither does the second one: such a run is the same in all orders.
-/

namespace Questionnaire

/-- Whether no file of a loader reaches a setting twice, or has anything but a table in the place of a
section. -/
def Loader.Orderly (loader : Loader) : Prop :=
  ∀ file ∈ loader.files, file.KeepsSections ∧ file.SetsOnce

instance (loader : Loader) : Decidable loader.Orderly :=
  inferInstanceAs (Decidable (∀ file ∈ loader.files, _))

/-- The formats of a run that renders visit parameters in any order. -/
theorem Registry.writeWith_perm (options : PageOptions) (document : Document) (name : String)
    {order parameters : Parameters} (same : order.Perm parameters)
    (distinct : (parameters.map Prod.fst).Nodup) (few : (unknownParameters parameters).length ≤ 1) :
    (default.register (.html options)).writeWith document name order =
      (default.register (.html options)).writeWith document name parameters := by
  by_cases named : name ∈ (default.register (.html options)).names
  · rcases get_rendering named with found | found
    · rw [writeWith_of_get found, writeWith_of_get found]
      exact (Format.html_order_free_iff options document distinct).mpr few order same
    · rw [writeWith_of_get found, writeWith_of_get found]
      exact Format.json_writeWith_perm same distinct document
  · have absent : (default.register (.html options)).get? name = none := by
      rw [mem_names_iff] at named
      simpa using named
    rw [writeWith, writeWith, get, absent]
    rfl

namespace Command

variable {platform other : Platform} {directory : Directory}

theorem load_of_orderly {config : Option String} (orderly : (loaderIn directory config).Orderly)
    (one other : Entries.Order String ConfigValue) :
    (loaderIn directory config).load one = (loaderIn directory config).load other := by
  have overrides : (loaderIn directory config).overrides = [] := by cases config <;> rfl
  have written := Loader.load_order (fun file hm => (orderly file hm).1)
    (fun file hm => (orderly file hm).2) (by simp [overrides])
  rw [written one, written other]

theorem run_withSettings_eq {config : Option String} {next next' : Settings → Session}
    (same : (loaderIn directory config).load platform.tableOrder =
      (loaderIn directory config).load other.tableOrder)
    (further : ∀ settings, (next settings).run directory = (next' settings).run directory) :
    (withSettings platform config next).run directory =
      (withSettings other config next').run directory := by
  rw [run_withSettings, run_withSettings]
  unfold withLoaded
  rw [same]
  cases (loaderIn directory config).load other.tableOrder with
  | ok settings => exact further settings
  | error fault => rfl

theorem render_eq_of_few {extras : Extras} (distinct : (extras.map Prod.fst).Nodup)
    (few : (unknownParameters extras).length ≤ 1) (settings : Settings) (input : String)
    (format output title : Option String) :
    render platform settings extras input format output title =
      render other settings extras input format output title := by
  have written (options : PageOptions) (document : Document) (name : String) :=
    (Registry.writeWith_perm options document name (platform.parameterOrder.perm extras) distinct
      few).trans (Registry.writeWith_perm options document name (other.parameterOrder.perm extras)
        distinct few).symm
  unfold render renderWith
  simp only [written]

theorem run_carryOut_eq {extras : Extras} {invocation : Invocation}
    (orderly : (loaderIn directory invocation.config).Orderly) (distinct : (extras.map Prod.fst).Nodup)
    (few : (unknownParameters extras.leftover).length ≤ 1) :
    (carryOut platform invocation extras).run directory =
      (carryOut other invocation extras).run directory := by
  have kept : (extras.leftover.map Prod.fst).Nodup :=
    (extras.leftover_sublist.map Prod.fst).nodup distinct
  unfold carryOut
  split
  · rfl
  · refine run_withSettings_eq (load_of_orderly orderly _ _) fun settings => ?_
    rw [settings.applyExtras_eq]
    cases settings.override extras.first? with
    | error fault => rfl
    | ok changed =>
      change (act platform changed extras.leftover invocation.action).run directory =
        (act other changed extras.leftover invocation.action).run directory
      match invocation.action with
      | some (.render input format output title) =>
        have same : act platform changed extras.leftover (some (.render input format output title)) =
            act other changed extras.leftover (some (.render input format output title)) :=
          render_eq_of_few kept few changed input format output title
        rw [same]
      | some (.inspect ..) | some .stylesheet | none => rfl

/-- A run is the same in all orders, where neither of them shows. -/
theorem run_session_of_orderly {arguments : List String}
    (orderly : ∀ invocation, readArguments (splitExtras [] arguments).1 = .ok invocation →
      (loaderIn directory invocation.config).Orderly)
    (few : (unknownParameters (splitExtras [] arguments).2.leftover).length ≤ 1)
    (platform : Platform) (parameterOrder : Entries.Order String String)
    (tableOrder : Entries.Order String ConfigValue) :
    (session arguments platform).run directory =
      (session arguments { platform with parameterOrder, tableOrder }).run directory := by
  have distinct : ((splitExtras [] arguments).2.map Prod.fst).Nodup :=
    nodup_keys_splitExtras (by simp) arguments
  unfold session
  generalize splitExtras [] arguments = parted at orderly few distinct ⊢
  obtain ⟨others, extras⟩ := parted
  dsimp only at orderly few distinct ⊢
  cases read : readArguments others with
  | ok invocation => exact run_carryOut_eq (orderly invocation read) distinct few
  | error halt => cases halt <;> rfl

end Command
end Questionnaire
