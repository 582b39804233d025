import Questionnaire.Command.Arguments
import Questionnaire.Proofs.Text.Cut

/-! # Command lines as they are written

A plain argument, an option with its value behind an equals sign, and extra parameters at the end, with
a value or as flags, are read as they are written. An extra parameter takes the argument behind it as
its value only where that starts with no dash, so a flag stays one before another parameter.
-/

namespace Questionnaire.Command

open Text

/-! ## Extra parameters -/

structure WrittenExtra where
  name : String
  value : Option String

namespace WrittenExtra

def argument (name : String) : String := "--extra-" ++ name

def arguments (extra : WrittenExtra) : List String := argument extra.name :: extra.value.toList

/-- A value that would not be read as the next argument. -/
def IsPlain (extra : WrittenExtra) : Prop := ∀ value ∈ extra.value, isDashed value = false

instance (extra : WrittenExtra) : Decidable extra.IsPlain :=
  inferInstanceAs (Decidable (∀ value ∈ extra.value, isDashed value = false))

/-- A flag stands for the value `true`. -/
def put (extras : Extras) (extra : WrittenExtra) : Extras :=
  Entries.put extra.name (extra.value.getD "true") extras

theorem isDashed_argument (name : String) : isDashed (argument name) = true := by
  simp [isDashed, argument]

theorem extraName?_argument (name : String) : extraName? (argument name) = some name := by
  rw [extraName?, argument, String.toList_append, afterLead_append]
  exact congrArg some String.ofList_toList

/-- All arguments of extra parameters are dashed or values, so the first of them is no value. -/
theorem head?_arguments (written : List WrittenExtra) :
    ∀ next ∈ (written.flatMap arguments).head?, isDashed next = true := by
  intro next hm
  cases written with
  | nil => cases hm
  | cons extra written =>
    cases hm
    exact isDashed_argument extra.name

end WrittenExtra

open WrittenExtra

/-- A flag before an option, or at the end. -/
theorem splitExtras_flag {rest : List String} (dashed : ∀ next ∈ rest.head?, isDashed next = true)
    (extras : Extras) (name : String) :
    splitExtras extras (argument name :: rest) = splitExtras (Entries.put name "true" extras) rest := by
  cases rest with
  | nil => simp [splitExtras, extraName?_argument]
  | cons next rest =>
    have here : isDashed next = true := dashed next rfl
    simp [splitExtras, extraName?_argument, here]

theorem splitExtras_written {written : List WrittenExtra} (plain : ∀ extra ∈ written, extra.IsPlain)
    (extras : Extras) :
    splitExtras extras (written.flatMap arguments) = ([], written.foldl put extras) := by
  induction written generalizing extras with
  | nil => rfl
  | cons extra written ih =>
    obtain ⟨here, others⟩ := List.forall_mem_cons.mp plain
    obtain ⟨name, value⟩ := extra
    rw [List.flatMap_cons, List.foldl_cons, ← ih others]
    cases value with
    | none => exact splitExtras_flag (head?_arguments written) extras name
    | some value =>
      have plainValue : isDashed value = false := here value rfl
      simp [arguments, splitExtras, extraName?_argument, plainValue, put]

/-- Arguments that are no extra parameters are left. -/
theorem splitExtras_others {others : List String} (h : ∀ argument ∈ others, extraName? argument = none)
    (extras : Extras) (rest : List String) :
    splitExtras extras (others ++ rest) =
      (others ++ (splitExtras extras rest).1, (splitExtras extras rest).2) := by
  induction others with
  | nil => rfl
  | cons argument others ih =>
    obtain ⟨here, more⟩ := List.forall_mem_cons.mp h
    simp [splitExtras, here, ih more]

/-! ## Options and plain arguments -/

def attached (name value : String) : String := "--" ++ name ++ "=" ++ value

theorem toList_attached (name value : String) :
    (attached name value).toList = '-' :: '-' :: (name.toList ++ '=' :: value.toList) := by
  simp [attached]

theorem extraName?_attached {name : String} (other : name.toList.head? ≠ some 'e')
    (value : String) : extraName? (attached name value) = none := by
  rw [extraName?, toList_attached]
  cases letters : name.toList with
  | nil => simp [afterLead]
  | cons c rest =>
    have differs : 'e' ≠ c := by
      rintro rfl
      exact other (by simp [letters])
    simp [afterLead, differs]

/-- A path or a dash alone is no extra parameter. -/
theorem extraName?_of_canBeValue {argument : String} (h : canBeValue argument = true) :
    extraName? argument = none := by
  rw [extraName?]
  rcases Bool.or_eq_true_iff.mp h with plain | dash
  · cases letters : argument.toList with
    | nil => simp [afterLead]
    | cons c rest =>
      have differs : '-' ≠ c := by
        rintro rfl
        simp [isDashed, letters] at plain
      simp [afterLead, differs]
  · rw [of_decide_eq_true dash]
    rfl

namespace ArgumentKind

variable {shape : Shape}

theorem of_canBeValue {argument : String} (free : argument ∉ shape.commands)
    (h : canBeValue argument = true) : of shape argument = .plain := by
  rw [of, if_neg (by simpa using free)]
  rcases Bool.or_eq_true_iff.mp h with plain | dash
  · cases letters : argument.toList with
    | nil => rfl
    | cons c rest =>
      have differs : c ≠ '-' := by
        rintro rfl
        simp [isDashed, letters] at plain
      simp [differs]
  · rw [of_decide_eq_true dash]
    rfl

theorem of_attached (alone : shape.commands = []) {entry : OptionShape} {name : String}
    (known : (shape.options.find? fun entry => entry.name = name) = some entry)
    (occupied : name ≠ "") (free : '=' ∉ name.toList) (value : String) :
    of shape (attached name value) = .option entry (some value) := by
  have long : ofLong shape (name.toList ++ '=' :: value.toList) = .option entry (some value) := by
    rw [ofLong, cutValue, cutAt_append free]
    simp [known]
  rw [of, alone, toList_attached]
  cases letters : name.toList with
  | nil => exact absurd (String.toList_eq_nil_iff.mp letters) occupied
  | cons c rest =>
    rw [letters] at long
    simpa using long

end ArgumentKind

section

variable {shape : Shape} {found : Matches}

theorem readMatches_plain (alone : shape.commands = []) {argument : String}
    (h : canBeValue argument = true) (room : found.plain.length < shape.plain)
    (rest : List String) :
    readMatches shape found (argument :: rest) =
      readMatches shape { found with plain := found.plain ++ [argument] } rest := by
  rw [readMatches, ArgumentKind.of_canBeValue (by simp [alone]) h]
  simp [Matches.addPlain, room]

/-- An option that is perhaps given. -/
theorem readMatches_attached (alone : shape.commands = []) {entry : OptionShape} {name : String}
    (known : (shape.options.find? fun entry => entry.name = name) = some entry)
    (takes : entry.takesValue = true) (occupied : name ≠ "") (free : '=' ∉ name.toList)
    (fresh : found.values.lookup name = none) (value? : Option String) (rest : List String) :
    readMatches shape found ((value?.map (attached name)).toList ++ rest) =
      readMatches shape
        { found with values := (value?.map fun value => (name, value)).toList ++ found.values }
        rest := by
  have named : entry.name = name := by simpa using List.find?_some known
  cases value? with
  | none => rfl
  | some value =>
    simp only [Option.map_some, Option.toList_some, List.singleton_append]
    rw [readMatches, ArgumentKind.of_attached alone known occupied free]
    simp [takes, Matches.addValue, named, fresh]

/-- What an option that is perhaps given adds to the values. -/
theorem lookup_optional (name key : String) (value? : Option String) (rest : Entries String String) :
    ((value?.map fun value => (key, value)).toList ++ rest).lookup name =
      if name = key then value? <|> rest.lookup name else rest.lookup name := by
  cases value? with
  | none => simp
  | some value =>
    by_cases same : name = key
    · simp [same]
    · simp [List.lookup_cons, beq_eq_false_iff_ne.mpr same, same]

/-- Behind the name of a part, only the arguments of the part count. -/
theorem readWhole_part {name : String} (isPart : partNames.contains name = true)
    (rest : List String) :
    readWhole (name :: rest) = (do
      let (inner, action) ← readNamedPart name rest
      return ⟨inner.flags.contains listFormatsOption.name, inner.values.lookup configOption.name,
        some action⟩) := by
  have command : ArgumentKind.of wholeShape name = .command name := if_pos isPart
  have found : readMatches wholeShape {} (name :: rest) =
      .ok { command := some (name, rest) } := by
    rw [readMatches, command]
  rw [readWhole, found]
  cases part : readNamedPart name rest <;> simp [bind, Except.bind, pure, Except.pure, part]

end

end Questionnaire.Command
