import Questionnaire.Proofs.Command.Arguments

/-! # Extra parameters are split off exactly

An argument that gives an extra parameter starts with a dash, so it is never the value of the one before
it. Whether an argument is left can thus be told from the one before it, and the value of a parameter
from the one behind. Arguments are read from the front, and what is read later goes before what was
put, so the last argument with the name of a parameter decides on its value.
-/

namespace Questionnaire.Command

open Text WrittenExtra

def Gives (argument name : String) : Prop :=
  argument = "--extra-" ++ name ∨ argument = "--extras-" ++ name

theorem extraName?_eq_some_iff {argument name : String} :
    extraName? argument = some name ↔ Gives argument name := by
  constructor
  · intro h
    obtain ⟨rest, found, rfl⟩ := Option.map_eq_some_iff.mp h
    cases short : afterLead "--extra-".toList argument.toList with
    | some behind =>
      rw [short] at found
      cases found
      left
      rw [← String.toList_inj, afterLead_eq_some short, String.toList_append,
        @String.toList_ofList rest]
    | none =>
      rw [short] at found
      right
      rw [← String.toList_inj, afterLead_eq_some found, String.toList_append,
        @String.toList_ofList rest]
  · rintro (rfl | rfl)
    · exact extraName?_argument name
    · have other : afterLead "--extra-".toList ("--extras-" ++ name).toList = none := by
        simp [afterLead]
      rw [extraName?, other, String.toList_append, afterLead_append]
      exact congrArg some String.ofList_toList

def IsExtra (argument : String) : Prop := ∃ name, Gives argument name

theorem isSome_extraName?_iff {argument : String} :
    (extraName? argument).isSome = true ↔ IsExtra argument := by
  rw [Option.isSome_iff_exists]
  exact exists_congr fun name => extraName?_eq_some_iff

instance (argument : String) : Decidable (IsExtra argument) :=
  decidable_of_iff _ isSome_extraName?_iff

theorem extraName?_eq_none_iff {argument : String} :
    extraName? argument = none ↔ ¬IsExtra argument := by
  rw [← isSome_extraName?_iff, Option.isSome_iff_ne_none, not_not]

theorem IsExtra.isDashed {argument : String} (h : IsExtra argument) : isDashed argument = true := by
  obtain ⟨name, rfl | rfl⟩ := h <;> simp [Command.isDashed]

/-! ## The arguments that are left -/

/-- Whether an argument is left with a certain one before it: it gives no parameter, and it is not the
value of one. -/
def IsLeft (before : Option String) (argument : String) : Prop :=
  ¬IsExtra argument ∧ ((∃ extra ∈ before, IsExtra extra) → isDashed argument = true)

instance (before : Option String) (argument : String) : Decidable (IsLeft before argument) :=
  inferInstanceAs (Decidable (_ ∧ (_ → _)))

def leftBehind (before : Option String) (arguments : List String) : List String :=
  ((arguments.zip (before :: arguments.map some)).filter fun (argument, before) =>
    IsLeft before argument).map Prod.fst

theorem leftBehind_cons (before : Option String) (argument : String) (rest : List String) :
    leftBehind before (argument :: rest) =
      if IsLeft before argument then argument :: leftBehind (some argument) rest
      else leftBehind (some argument) rest := by
  simp only [leftBehind, List.map_cons, List.zip_cons_cons, List.filter_cons, decide_eq_true_eq]
  split <;> rfl

/-- What has just been read decides on the next argument only if that can be a value. -/
theorem fst_splitExtras (extras : Extras) (arguments : List String) (before : Option String)
    (settled : (∃ extra ∈ before, IsExtra extra) → ∀ next ∈ arguments.head?, isDashed next = true) :
    (splitExtras extras arguments).1 = leftBehind before arguments := by
  induction extras, arguments using splitExtras.induct generalizing before with
  | case1 extras => rfl
  | case2 extras argument rest other others left split ih =>
    have plain : ¬IsExtra argument := extraName?_eq_none_iff.mp other
    have next := ih (some argument) (by simp [plain])
    have stays : IsLeft before argument := ⟨plain, fun behind => settled behind argument rfl⟩
    rw [leftBehind_cons, if_pos stays, ← next]
    simp [splitExtras, other]
  | case3 extras argument name gives =>
    have extra : IsExtra argument := ⟨name, extraName?_eq_some_iff.mp gives⟩
    simp [splitExtras, gives, IsLeft, extra, leftBehind]
  | case4 extras argument name value more gives dashed ih =>
    have extra : IsExtra argument := ⟨name, extraName?_eq_some_iff.mp gives⟩
    have next := ih (some argument) (by simp [dashed])
    rw [leftBehind_cons, if_neg fun stays => stays.1 extra, ← next]
    simp [splitExtras, gives, dashed]
  | case5 extras argument name value more gives plain ih =>
    have extra : IsExtra argument := ⟨name, extraName?_eq_some_iff.mp gives⟩
    have noExtra : ¬IsExtra value := fun h => plain h.isDashed
    have taken : ¬IsLeft (some argument) value := fun stays => plain (stays.2 ⟨argument, rfl, extra⟩)
    have next := ih (some value) (by simp [noExtra])
    rw [leftBehind_cons, if_neg fun stays => stays.1 extra, leftBehind_cons, if_neg taken, ← next]
    simp [splitExtras, gives, plain]

/-! ## The parameters -/

def valueBefore (rest : List String) : String :=
  match rest.head? with
  | some next => if isDashed next then "true" else next
  | none => "true"

/-- The value that the last argument with the name of a parameter gives it. -/
def lastValue? (name : String) : List String → Option String
  | [] => none
  | argument :: rest =>
    lastValue? name rest <|>
      if extraName? argument = some name then some (valueBefore rest) else none

theorem lastValue?_cons_plain (name : String) {argument : String}
    (plain : extraName? argument = none) (rest : List String) :
    lastValue? name (argument :: rest) = lastValue? name rest := by
  simp [lastValue?, plain]

theorem lastValue?_cons_extra (name : String) {argument given : String}
    (gives : extraName? argument = some given) (rest : List String) :
    lastValue? name (argument :: rest) =
      (lastValue? name rest <|> if given = name then some (valueBefore rest) else none) := by
  simp [lastValue?, gives]

/-- What is read later goes before what has just been put. -/
theorem orElse_lookup_put (later : Option String) (name given value : String) (extras : Extras) :
    (later <|> (Entries.put given value extras).lookup name) =
      ((later <|> if given = name then some value else none) <|> extras.lookup name) := by
  by_cases same : given = name
  · cases later <;> simp [same, Entries.lookup_put]
  · simp [same, Entries.lookup_put_of_ne (Ne.symm same)]

theorem lookup_splitExtras (name : String) (extras : Extras) (arguments : List String) :
    (splitExtras extras arguments).2.lookup name =
      (lastValue? name arguments <|> extras.lookup name) := by
  induction extras, arguments using splitExtras.induct with
  | case1 extras => simp [splitExtras, lastValue?]
  | case2 extras argument rest other others left split ih =>
    rw [lastValue?_cons_plain name other, ← ih]
    simp [splitExtras, other]
  | case3 extras argument given gives =>
    have step : splitExtras extras [argument] = ([], Entries.put given "true" extras) := by
      simp [splitExtras, gives]
    rw [step, lastValue?_cons_extra name gives, ← orElse_lookup_put]
    rfl
  | case4 extras argument given value more gives dashed ih =>
    have step : splitExtras extras (argument :: value :: more) =
        splitExtras (Entries.put given "true" extras) (value :: more) := by
      simp [splitExtras, gives, dashed]
    have worth : valueBefore (value :: more) = "true" := by simp [valueBefore, dashed]
    rw [step, ih, lastValue?_cons_extra name gives, worth, orElse_lookup_put]
  | case5 extras argument given value more gives plain ih =>
    have noExtra : extraName? value = none :=
      extraName?_eq_none_iff.mpr fun extra => plain extra.isDashed
    have step : splitExtras extras (argument :: value :: more) =
        splitExtras (Entries.put given value extras) more := by
      simp [splitExtras, gives, plain]
    have worth : valueBefore (value :: more) = value := by simp [valueBefore, plain]
    rw [step, ih, lastValue?_cons_extra name gives, worth, lastValue?_cons_plain name noExtra,
      orElse_lookup_put]

theorem lastValue?_eq_none_iff {name : String} {arguments : List String} :
    lastValue? name arguments = none ↔ ∀ argument ∈ arguments, ¬Gives argument name := by
  induction arguments with
  | nil => simp [lastValue?]
  | cons argument rest ih =>
    simp [lastValue?, ih, extraName?_eq_some_iff, and_comm]

/-- The last argument that gives a parameter has only arguments behind it that do not. -/
theorem lastValue?_eq_some_iff {name value : String} {arguments : List String} :
    lastValue? name arguments = some value ↔
      ∃ front argument rest, arguments = front ++ argument :: rest ∧ Gives argument name ∧
        (∀ later ∈ rest, ¬Gives later name) ∧ value = valueBefore rest := by
  constructor
  · intro h
    induction arguments with
    | nil => cases h
    | cons argument rest ih =>
      cases later : lastValue? name rest with
      | some other =>
        obtain rfl : other = value := by simpa [lastValue?, later] using h
        obtain ⟨front, last, behind, he, found⟩ := ih later
        exact ⟨argument :: front, last, behind, by rw [he, List.cons_append], found⟩
      | none =>
        have here : Gives argument name ∧ valueBefore rest = value := by
          simpa [lastValue?, later, extraName?_eq_some_iff] using h
        exact ⟨[], argument, rest, rfl, here.1, lastValue?_eq_none_iff.mp later, here.2.symm⟩
  · rintro ⟨front, argument, rest, rfl, gives, last, rfl⟩
    induction front with
    | nil =>
      have none : lastValue? name rest = none := lastValue?_eq_none_iff.mpr last
      simp [lastValue?, none, extraName?_eq_some_iff.mpr gives]
    | cons first front ih => simp [lastValue?, ih]

theorem nodup_keys_splitExtras {extras : Extras} (distinct : (extras.map Prod.fst).Nodup)
    (arguments : List String) : ((splitExtras extras arguments).2.map Prod.fst).Nodup := by
  induction extras, arguments using splitExtras.induct with
  | case1 extras => exact distinct
  | case2 extras argument rest other others left split ih =>
    simpa [splitExtras, other] using ih distinct
  | case3 extras argument given gives =>
    simpa [splitExtras, gives] using Entries.nodup_keys_put distinct given "true"
  | case4 extras argument given value more gives dashed ih =>
    simpa [splitExtras, gives, dashed] using ih (Entries.nodup_keys_put distinct given "true")
  | case5 extras argument given value more gives plain ih =>
    simpa [splitExtras, gives, plain] using ih (Entries.nodup_keys_put distinct given value)

theorem not_isExtra_of_mem_leftBehind {before : Option String} {arguments : List String}
    {argument : String} (h : argument ∈ leftBehind before arguments) : ¬IsExtra argument := by
  obtain ⟨⟨argument, front⟩, kept, rfl⟩ := List.mem_map.mp h
  have stays : IsLeft front argument := by simpa using (List.mem_filter.mp kept).2
  exact stays.1

/-- **Extra parameters are split off exactly.** What is left are the arguments, in their order, that
neither give an extra parameter nor follow one that does without a dash of their own. The parameters
are those that some argument gives, each once, and the last argument that gives one decides on its
value: the argument behind it, or `true` where that starts with a dash or nothing is behind. Splitting
what is left once more changes nothing and finds no parameter. -/
theorem splitExtras_exact (arguments : List String) :
    let (others, extras) := splitExtras [] arguments
    others = ((arguments.zip (none :: arguments.map some)).filter fun (argument, before) =>
      IsLeft before argument).map Prod.fst ∧
    (extras.map Prod.fst).Nodup ∧
    (∀ name, name ∈ extras.map Prod.fst ↔ ∃ argument ∈ arguments, Gives argument name) ∧
    (∀ name value, extras.lookup name = some value ↔
      ∃ front argument rest, arguments = front ++ argument :: rest ∧ Gives argument name ∧
        (∀ later ∈ rest, ¬Gives later name) ∧ value = valueBefore rest) ∧
    splitExtras [] others = (others, []) := by
  have left := fst_splitExtras [] arguments none (by simp)
  have found (name : String) :
      (splitExtras [] arguments).2.lookup name = lastValue? name arguments := by
    simp [lookup_splitExtras]
  refine ⟨left, nodup_keys_splitExtras (by simp) arguments, fun name => ?_, fun name value => ?_, ?_⟩
  · rw [Entries.mem_keys_iff, found, Ne, lastValue?_eq_none_iff]
    simp
  · rw [found, lastValue?_eq_some_iff]
  · have plain : ∀ argument ∈ (splitExtras [] arguments).1, extraName? argument = none := by
      intro argument hm
      rw [left] at hm
      exact extraName?_eq_none_iff.mpr (not_isExtra_of_mem_leftBehind hm)
    simpa [splitExtras] using splitExtras_others plain [] []

end Questionnaire.Command
