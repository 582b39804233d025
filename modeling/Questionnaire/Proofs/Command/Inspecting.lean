import Questionnaire.Proofs.Command.Arguments
import Questionnaire.Proofs.Command.Platforms
import Questionnaire.Proofs.Json.Fields

/-! # Two ways to list the fields of a file

A command line that inspects a file does what one does that renders the file as a dump of its fields
alone: both load the same settings and compile the same document. Rendering also looks for the
stylesheet, and for parameters that the format does not know. Where the first is found and there are
none of the second, both runs end alike.
-/

namespace Questionnaire.Command

/-- How two sessions end that list the same fields, one of them with a line feed at the end. -/
structure ListsAlike (directory : Directory) (inspecting rendering : Session) : Prop where
  status : (inspecting.run directory).1.status = (rendering.run directory).1.status
  log : (inspecting.run directory).1.log = (rendering.run directory).1.log
  output : (inspecting.run directory).1.status = .success →
    (inspecting.run directory).1.output = (rendering.run directory).1.output ++ "\n"
  unwritten : (inspecting.run directory).2 = directory ∧ (rendering.run directory).2 = directory

namespace ListsAlike

variable {directory : Directory}

theorem fail (log : List String) : ListsAlike directory (.fail log) (.fail log) :=
  ⟨rfl, rfl, (nomatch ·), rfl, rfl⟩

theorem print (list : String) (log : List String) :
    ListsAlike directory (.print (list ++ "\n") log) (.print list log) :=
  ⟨rfl, rfl, fun _ => rfl, rfl, rfl⟩

theorem of_run_eq {inspecting rendering inspecting' rendering' : Session}
    (h : ListsAlike directory inspecting' rendering')
    (inspected : inspecting.run directory = inspecting'.run directory)
    (rendered : rendering.run directory = rendering'.run directory) :
    ListsAlike directory inspecting rendering := by
  refine ⟨?_, ?_, ?_, ?_⟩ <;> rw [inspected, rendered]
  · exact h.status
  · exact h.log
  · exact h.output
  · exact h.unwritten

theorem readText {path : String} {next next' : Except FileFault String → Session}
    (further : ∀ result, ListsAlike directory (next result) (next' result)) :
    ListsAlike directory (.readText path next) (.readText path next') := by
  unfold Session.readText
  cases read : directory.read path with
  | error fault =>
    refine (further (.error fault)).of_run_eq ?_ ?_ <;> rw [Session.run, read]
  | ok bytes =>
    cases decoded : String.fromUTF8? bytes with
    | none =>
      refine (further (.error .notText)).of_run_eq ?_ ?_ <;> rw [Session.run, read] <;>
        simp only [decoded]
    | some text =>
      refine (further (.ok text)).of_run_eq ?_ ?_ <;> rw [Session.run, read] <;>
        simp only [decoded]

theorem withDocument (settings : Settings) (input : String) (title : Option String)
    {next next' : Document → List String → Session}
    (further : ∀ document log, ListsAlike directory (next document log) (next' document log)) :
    ListsAlike directory (withDocument settings input title next)
      (withDocument settings input title next') := by
  refine readText fun result => ?_
  cases result with
  | error fault => exact fail _
  | ok source =>
    dsimp only
    cases (compile source (settings.documentTitle input title) settings.fieldOptions
      settings.policy).result with
    | ok document => exact further _ _
    | error failure => exact fail _

theorem withSettings {platform other : Platform} {config : Option String}
    (same : (loaderIn directory config).load platform.tableOrder =
      (loaderIn directory config).load other.tableOrder) {next next' : Settings → Session}
    (further : ∀ settings, settingsIn platform directory config = some settings →
      ListsAlike directory (next settings) (next' settings)) :
    ListsAlike directory (withSettings platform config next) (withSettings other config next') := by
  have loaded : ListsAlike directory (withLoaded platform (loaderIn directory config) next)
      (withLoaded other (loaderIn directory config) next') := by
    unfold withLoaded
    rw [← same]
    cases load : (loaderIn directory config).load platform.tableOrder with
    | ok settings => exact further settings (by rw [settingsIn, load]; rfl)
    | error fault => exact fail _
  exact loaded.of_run_eq (run_withSettings ..) (run_withSettings ..)

end ListsAlike

/-! ## What is asked for -/

structure Inspection where
  extras : Extras
  config : Option String
  input : String
  title : Option String

def Inspection.of? (arguments : List String) : Option Inspection :=
  let (others, extras) := splitExtras [] arguments
  match readArguments others with
  | .ok ⟨false, config, some (.inspect input title)⟩ => some ⟨extras, config, input, title⟩
  | _ => none

theorem session_of_inspection {arguments : List String} {inspection : Inspection}
    (asked : Inspection.of? arguments = some inspection) (platform : Platform) :
    session arguments platform = carryOut platform ⟨false, inspection.config,
      some (.inspect inspection.input inspection.title)⟩ inspection.extras := by
  unfold Inspection.of? at asked
  cases parted : splitExtras [] arguments with
  | mk others extras =>
    rw [parted] at asked
    dsimp only at asked
    split at asked
    · rename_i read
      cases asked
      exact session_of_invocation parted read platform
    · cases asked

/-- A request for the list of the fields that an inspection prints. -/
structure Inspection.ListedBy (inspection : Inspection) (request : Request) : Prop where
  config : request.config = inspection.config
  input : request.input = inspection.input
  title : request.title = inspection.title
  format : request.format = some "json"
  output : request.output = none
  asked : request.extras.lookup fieldsOnly = some "true"
  others : inspection.extras.AgreeOff fieldsOnly request.extras

def Inspection.settings? (inspection : Inspection) (platform : Platform) (directory : Directory) :
    Option (Settings × Extras) := do
  let loaded ← settingsIn platform directory inspection.config
  (loaded.applyExtras inspection.extras).toOption

/-- The stylesheet of the settings can be read, and no other extra parameter is left than the one
that asks for the fields alone. -/
def Inspection.Listable (inspection : Inspection) (platform : Platform) (directory : Directory) :
    Prop :=
  ∀ settings left, inspection.settings? platform directory = some (settings, left) →
    (pageOptionsIn directory settings).isSome = true ∧
      ∀ name, name ≠ fieldsOnly → left.lookup name = none

/-! ## Running both -/

section

variable {directory : Directory}

theorem get_json (options : PageOptions) :
    (Registry.default.register (.html options)).get "json" = .ok .json := by
  rw [Registry.get, Registry.get?, Registry.formats_register_html]
  rfl

/-- With the settings known, the stylesheet found and no parameter that the format does not know. -/
theorem listsAlike_render {platform : Platform} {settings : Settings} {options : PageOptions}
    {extras : Extras} (styled : pageOptionsIn directory settings = some options)
    (distinct : (extras.map Prod.fst).Nodup) (asked : extras.lookup fieldsOnly = some "true")
    (known : ∀ name, name ≠ fieldsOnly → extras.lookup name = none)
    (input : String) (title : Option String) :
    ListsAlike directory (inspect settings input title)
      (render platform settings extras input (some "json") none title) := by
  have leads := @leads_withPageOptions directory settings fun options =>
    renderWith platform (Registry.default.register (.html options)) settings extras input
      (some "json") none title
  rw [styled] at leads
  refine ListsAlike.of_run_eq ?_ rfl leads
  have name : formatName (Registry.default.register (.html options)) (some "json") none = "json" :=
    rfl
  have visited := platform.parameterOrder.lookup_visit distinct
  simp only [renderWith, name, get_json]
  refine ListsAlike.withDocument settings input title fun document log => ?_
  have written : (Registry.default.register (.html options)).writeWith document "json"
      (platform.parameterOrder.visit extras) = .ok document.fieldReport.pretty := by
    rw [Registry.writeWith_of_get (get_json options)]
    exact Format.json_writeWith_fieldsOnly document
      (fun name other => (visited name).trans (known name other)) ((visited fieldsOnly).trans asked)
  rw [written]
  exact .print document.fieldReport.pretty log

theorem fieldsOnly_unknown : ∀ names ∈ knownExtras, fieldsOnly ∉ names := by decide

/-- The parameters of a request have distinct names. -/
theorem Request.nodup_extras {arguments : List String} {request : Request}
    (asked : of? arguments = some request) : (request.extras.map Prod.fst).Nodup := by
  have distinct : ((splitExtras [] arguments).2.map Prod.fst).Nodup :=
    nodup_keys_splitExtras (by simp) arguments
  unfold of? at asked
  dsimp only at asked
  split at asked
  · cases asked
    exact distinct
  · cases asked

/-- A command line that inspects a file, and one that renders the list of its fields. -/
theorem Inspection.listsAlike {platform other : Platform} {arguments arguments' : List String}
    {inspection : Inspection} {request : Request} (asked : of? arguments = some inspection)
    (asked' : Request.of? arguments' = some request) (same : inspection.ListedBy request)
    (loads : (loaderIn directory inspection.config).load platform.tableOrder =
      (loaderIn directory inspection.config).load other.tableOrder)
    (listable : inspection.Listable platform directory) :
    ListsAlike directory (session arguments platform) (session arguments' other) := by
  rw [session_of_inspection asked, session_of_request asked', same.config]
  refine ListsAlike.withSettings loads fun loaded found => ?_
  have changed := same.others.override fieldsOnly_unknown loaded
  have left := same.others.leftover fieldsOnly_unknown
  have distinct : (request.extras.leftover.map Prod.fst).Nodup :=
    (request.extras.leftover_sublist.map Prod.fst).nodup (Request.nodup_extras asked')
  rw [Settings.applyExtras_eq, Settings.applyExtras_eq, ← changed]
  cases overridden : loaded.override inspection.extras.first? with
  | error fault => exact .fail _
  | ok settings =>
    have settled : inspection.settings? platform directory =
        some (settings, inspection.extras.leftover) := by
      rw [Inspection.settings?, found, Option.bind_eq_bind, Option.bind_some,
        Settings.applyExtras_eq, overridden]
      rfl
    obtain ⟨styled, known⟩ := listable settings inspection.extras.leftover settled
    obtain ⟨options, styled⟩ := Option.isSome_iff_exists.mp styled
    have asked : request.extras.leftover.lookup fieldsOnly = some "true" := by
      rw [Extras.lookup_leftover fieldsOnly_unknown, same.asked]
    have none : ∀ name, name ≠ fieldsOnly → request.extras.leftover.lookup name = none := by
      intro name other
      rw [← left name other, known name other]
    have alike : ListsAlike directory (inspect settings inspection.input inspection.title)
        (render other settings request.extras.leftover request.input request.format request.output
          request.title) := by
      rw [same.input, same.title, same.format, same.output]
      exact listsAlike_render styled distinct asked none inspection.input inspection.title
    exact alike

end

/-! ## The command lines -/

/-- A file of which the fields are to be listed, with a title, a configuration file and extra
parameters, if given. -/
structure FieldListing where
  input : String
  title : Option String := none
  config : Option String := none
  extras : List WrittenExtra := []
  plain : canBeValue input = true
  extrasPlain : ∀ extra ∈ extras, extra.IsPlain

namespace FieldListing

variable (listing : FieldListing)

def options : List String :=
  (listing.title.map (attached "title")).toList ++ (listing.config.map (attached "config")).toList

def extrasWithFlag : List WrittenExtra := listing.extras ++ [⟨fieldsOnly, none⟩]

def inspecting : List String :=
  "inspect" :: listing.input :: listing.options ++ listing.extras.flatMap WrittenExtra.arguments

def rendering : List String :=
  "render" :: listing.input :: "--to" :: "json" :: listing.options ++
    listing.extrasWithFlag.flatMap WrittenExtra.arguments

def inspection : Inspection :=
  ⟨listing.extras.foldl WrittenExtra.put [], listing.config, listing.input, listing.title⟩

def request : Request :=
  ⟨listing.extrasWithFlag.foldl WrittenExtra.put [], listing.config, listing.input, some "json", none,
    listing.title⟩

theorem listedBy : listing.inspection.ListedBy listing.request where
  config := rfl
  input := rfl
  title := rfl
  format := rfl
  output := rfl
  asked := by
    simp [request, extrasWithFlag, WrittenExtra.put, Entries.lookup_put]
  others := by
    intro name other
    simp [request, inspection, extrasWithFlag, WrittenExtra.put, Entries.lookup_put_of_ne other]

/-- Values with those that the options give in front. -/
def withValues (given : Entries String String) : Entries String String :=
  (listing.config.map fun path => ("config", path)).toList ++
    ((listing.title.map fun title => ("title", title)).toList ++ given)

theorem lookup_withValues (given : Entries String String) (name : String) :
    (listing.withValues given).lookup name =
      if name = "config" then listing.config <|> given.lookup name
      else if name = "title" then listing.title <|> given.lookup name
      else given.lookup name := by
  rw [withValues, lookup_optional, lookup_optional]
  by_cases config : name = "config" <;> simp [config]

theorem readMatches_options {shape : Shape} {found : Matches} (alone : shape.commands = [])
    (title : (shape.options.find? fun entry => entry.name = "title") = some { name := "title" })
    (config : (shape.options.find? fun entry => entry.name = "config") = some configOption)
    (fresh : found.values.lookup "title" = none ∧ found.values.lookup "config" = none) :
    readMatches shape found listing.options =
      .ok { found with values := listing.withValues found.values } := by
  have behind : ((listing.title.map fun title => ("title", title)).toList ++ found.values).lookup
      "config" = none := by
    rw [lookup_optional, if_neg (by decide), fresh.2]
  rw [options, readMatches_attached alone title rfl (by decide) (by decide) fresh.1,
    ← List.append_nil (listing.config.map (attached "config")).toList,
    readMatches_attached alone config rfl (by decide) (by decide) behind]
  simp [readMatches, withValues]

/-- The options are no extra parameters. -/
theorem extraName?_options : ∀ argument ∈ listing.options, extraName? argument = none := by
  intro argument hm
  rcases List.mem_append.mp hm with title | config
  · obtain ⟨value, -, rfl⟩ := Option.map_eq_some_iff.mp (Option.mem_toList.mp title)
    exact extraName?_attached (by decide) value
  · obtain ⟨value, -, rfl⟩ := Option.map_eq_some_iff.mp (Option.mem_toList.mp config)
    exact extraName?_attached (by decide) value

theorem inspection_of_inspecting : Inspection.of? listing.inspecting = some listing.inspection := by
  have others : ∀ argument ∈ "inspect" :: listing.input :: listing.options,
      extraName? argument = none := by
    simp only [List.forall_mem_cons]
    exact ⟨by decide, extraName?_of_canBeValue listing.plain, listing.extraName?_options⟩
  have read : readMatches inspectShape {} (listing.input :: listing.options) =
      .ok { plain := [listing.input], values := listing.withValues [] } := by
    rw [readMatches_plain rfl listing.plain (by decide)]
    exact listing.readMatches_options rfl rfl rfl ⟨rfl, rfl⟩
  have part : readNamedPart "inspect" (listing.input :: listing.options) =
      .ok ({ plain := [listing.input], values := listing.withValues [] },
        .inspect listing.input listing.title) := by
    unfold readNamedPart
    rw [if_neg (by decide), if_pos rfl, readPart, read]
    simp [bind, Except.bind, pure, Except.pure, lookup_withValues]
  have whole : readArguments ("inspect" :: listing.input :: listing.options) =
      .ok ⟨false, listing.config, some (.inspect listing.input listing.title)⟩ := by
    rw [readArguments, readWhole_part (by decide), part]
    simp [bind, Except.bind, pure, Except.pure, lookup_withValues, configOption]
  rw [Inspection.of?, inspecting, splitExtras_others others,
    splitExtras_written listing.extrasPlain, List.append_nil]
  simp only [whole]
  rfl

theorem request_of_rendering : Request.of? listing.rendering = some listing.request := by
  have others : ∀ argument ∈ "render" :: listing.input :: "--to" :: "json" :: listing.options,
      extraName? argument = none := by
    simp only [List.forall_mem_cons]
    exact ⟨by decide, extraName?_of_canBeValue listing.plain, by decide, by decide,
      listing.extraName?_options⟩
  have plain : ∀ extra ∈ listing.extrasWithFlag, extra.IsPlain :=
    List.forall_mem_append.mpr ⟨listing.extrasPlain, by simp [WrittenExtra.IsPlain]⟩
  have read : readMatches renderShape {} (listing.input :: "--to" :: "json" :: listing.options) =
      .ok { plain := [listing.input], values := listing.withValues [("to", "json")] } := by
    rw [readMatches_plain rfl listing.plain (by decide)]
    exact listing.readMatches_options rfl rfl rfl ⟨rfl, rfl⟩
  have part : readNamedPart "render" (listing.input :: "--to" :: "json" :: listing.options) =
      .ok ({ plain := [listing.input], values := listing.withValues [("to", "json")] },
        .render listing.input (some "json") none listing.title) := by
    unfold readNamedPart
    rw [if_pos rfl, readPart, read]
    simp [bind, Except.bind, pure, Except.pure, lookup_withValues]
  have whole :
      readArguments ("render" :: listing.input :: "--to" :: "json" :: listing.options) =
        .ok ⟨false, listing.config,
          some (.render listing.input (some "json") none listing.title)⟩ := by
    rw [readArguments, readWhole_part (by decide), part]
    simp [bind, Except.bind, pure, Except.pure, lookup_withValues, configOption]
  rw [Request.of?, rendering, splitExtras_others others, splitExtras_written plain, List.append_nil]
  simp only [whole]
  rfl

end FieldListing

/-- **The ways to list the fields agree with the whole dump.** The list of the fields of a document is
the value that consists of the headers and elements of the fields in its dump, and the dump with the
fields alone is the same text. And whatever is in a directory, a command line that inspects a file and
one that renders its fields alone end alike, as long as the stylesheet can be read and no other extra
parameter is left: with the same status, the same log and all files as they were, and where they
succeed, the first one prints a line feed behind what the second one prints. The platform is the same
for both runs, or any two where no configuration file reaches a setting twice. -/
theorem field_listings_agree :
    (∀ document : Document, ∃ text dump list,
      Format.json.write document = .ok text ∧ Json.read? text = some dump ∧
        dump.fieldList? = some list ∧ Json.read? document.fieldReport.pretty = some list ∧
        Format.json.writeWith document [(fieldsOnly, "true")] =
          .ok document.fieldReport.pretty) ∧
    ∀ (platform other : Platform) (directory : Directory) (listing : FieldListing),
      (other = platform ∨ (loaderIn directory listing.config).Orderly) →
      listing.inspection.Listable platform directory →
        ListsAlike directory (session listing.inspecting platform)
          (session listing.rendering other) := by
  constructor
  · intro document
    refine ⟨document.toJson.pretty, document.toJson, document.fieldReport, rfl,
      Json.read?_pretty _, document.fieldList?_toJson, Json.read?_pretty _, ?_⟩
    refine Format.json_writeWith_fieldsOnly document (fun name other => ?_) ?_
    · simp [List.lookup_cons, beq_eq_false_iff_ne.mpr other]
    · simp
  · intro platform other directory listing orders listable
    have loads : (loaderIn directory listing.config).load platform.tableOrder =
        (loaderIn directory listing.config).load other.tableOrder := by
      rcases orders with rfl | orderly
      · rfl
      · exact load_of_orderly orderly _ _
    exact Inspection.listsAlike listing.inspection_of_inspecting listing.request_of_rendering
      listing.listedBy loads listable

/-- A strict run with a stylesheet and a title that starts with a dash. -/
theorem field_listings_agree_styled :
    let directory : Directory :=
      ⟨[(["quiz.md".toList], "q = ___[10]".toUTF8), (["own.css".toList], "p".toUTF8)]⟩
    let listing : FieldListing :=
      ⟨"quiz.md", some "-1", none, [⟨"css", some "own.css"⟩, ⟨"strict", none⟩], by decide, by decide⟩
    ListsAlike directory (session listing.inspecting) (session listing.rendering) ∧
      ((session listing.inspecting).run directory).1.status = .success := by
  intro directory listing
  have settled : listing.inspection.settings? .standard directory =
      some (⟨3, "", "post", "", "", .strict, none, some "own.css"⟩, []) := by decide +kernel
  have listable : listing.inspection.Listable .standard directory := by
    intro settings left found
    rw [settled] at found
    cases found
    exact ⟨by decide +kernel, fun _ _ => rfl⟩
  exact ⟨field_listings_agree.2 .standard .standard directory listing (.inl rfl) listable,
    by decide +kernel⟩

end Questionnaire.Command
