import Mathlib.Data.List.Nodup
import Questionnaire.Format.Builtin

/-! # Parameters of pages in any order

Parameters have distinct names, and the order in which they are visited is not given. Known ones replace
members of the options, each its own, so among them the order does not show. An unknown one ends the
visit and is named in the error: of several it is the order that chooses which.
-/

namespace Questionnaire

/-- Entries with distinct keys say the same in any order. -/
theorem Entries.lookup_perm {κ α : Type} [BEq κ] [LawfulBEq κ] {one other : Entries κ α}
    (same : one.Perm other) (distinct : (one.map Prod.fst).Nodup) (key : κ) :
    one.lookup key = other.lookup key := by
  induction same with
  | nil => rfl
  | cons entry _ ih =>
    obtain ⟨here, value⟩ := entry
    rw [List.lookup_cons, List.lookup_cons, ih (List.nodup_cons.mp distinct).2]
  | swap one other rest =>
    obtain ⟨first, value⟩ := one
    obtain ⟨second, value'⟩ := other
    have apart : second ≠ first := by
      rintro rfl
      simp at distinct
    simp only [List.lookup_cons]
    cases here : key == second with
    | false => rfl
    | true =>
      have differs : (key == first) = false := by
        rw [eq_of_beq here]
        exact beq_eq_false_iff_ne.mpr apart
      rw [differs]
  | trans left _ ih ih' =>
    exact (ih distinct).trans (ih' ((left.map Prod.fst).nodup_iff.mp distinct))

theorem Entries.Order.lookup_visit {κ α : Type} [BEq κ] [LawfulBEq κ] (order : Entries.Order κ α)
    {entries : Entries κ α} (distinct : (entries.map Prod.fst).Nodup) (key : κ) :
    (order.visit entries).lookup key = entries.lookup key :=
  (Entries.lookup_perm (order.perm entries).symm distinct key).symm

def pageParameters : List String := ["method", "action", "submit-label"]

def Failure.unknownParameter (name : String) : Failure :=
  .notSupported ("Unknown html parameter '" ++ name ++ "'")

theorem Failure.unknownParameter_injective : Function.Injective unknownParameter := by
  intro one other same
  have reasons := congrArg String.toList (Failure.notSupported.inj same)
  simp only [String.toList_append, List.append_assoc] at reasons
  exact String.toList_inj.mp (List.append_cancel_right (List.append_cancel_left reasons))

/-- The parameters that pages do not accept, in the order in which they are visited. -/
def unknownParameters (parameters : Parameters) : List String :=
  (parameters.map Prod.fst).filter (· ∉ pageParameters)

theorem unknownParameters_cons_known {name value : String} {rest : Parameters}
    (known : name ∈ pageParameters) :
    unknownParameters ((name, value) :: rest) = unknownParameters rest := by
  simp [unknownParameters, known]

theorem unknownParameters_cons_unknown {name value : String} {rest : Parameters}
    (unknown : name ∉ pageParameters) :
    unknownParameters ((name, value) :: rest) = name :: unknownParameters rest := by
  simp [unknownParameters, unknown]

theorem unknownParameters_perm {order parameters : Parameters} (same : order.Perm parameters) :
    (unknownParameters order).Perm (unknownParameters parameters) :=
  (same.map Prod.fst).filter _

namespace PageOptions

variable {name value : String} {parameters order rest : Parameters}

/-- Options with the members that parameters give replaced. -/
def replaced (options : PageOptions) (parameters : Parameters) : PageOptions :=
  { options with form := {
      method := (parameters.lookup "method").getD options.form.method
      action := (parameters.lookup "action").getD options.form.action
      submitLabel := (parameters.lookup "submit-label").getD options.form.submitLabel } }

/-- A parameter that is not given again is replaced together with the others. -/
theorem replaced_cons (options : PageOptions) (fresh : rest.lookup name = none) :
    (options.replaced [(name, value)]).replaced rest = options.replaced ((name, value) :: rest) := by
  have member (key held : String) :
      (rest.lookup key).getD (([(name, value)].lookup key).getD held) =
        (((name, value) :: rest).lookup key).getD held := by
    by_cases same : key = name
    · simp [same, fresh]
    · simp [List.lookup_cons, beq_eq_false_iff_ne.mpr same]
  simp only [replaced, member]

theorem replaced_perm (options : PageOptions) (same : order.Perm parameters)
    (distinct : (parameters.map Prod.fst).Nodup) :
    options.replaced order = options.replaced parameters := by
  unfold replaced
  simp only [Entries.lookup_perm same.symm distinct]

theorem withParameters_known (options : PageOptions) (known : name ∈ pageParameters) :
    options.withParameters ((name, value) :: rest) =
      (options.replaced [(name, value)]).withParameters rest := by
  have cases : name = "method" ∨ name = "action" ∨ name = "submit-label" := by
    simpa [pageParameters] using known
  rcases cases with rfl | rfl | rfl <;> rfl

theorem withParameters_unknown (options : PageOptions) (unknown : name ∉ pageParameters) :
    options.withParameters ((name, value) :: rest) = .error (.unknownParameter name) := by
  have apart : name ≠ "method" ∧ name ≠ "action" ∧ name ≠ "submit-label" := by
    simpa [pageParameters] using unknown
  rw [withParameters, if_neg apart.1, if_neg apart.2.1, if_neg apart.2.2]
  rfl

/-- The first unknown parameter ends the visit. -/
theorem withParameters_of_unknown (options : PageOptions) {more : List String}
    (first : unknownParameters parameters = name :: more) :
    options.withParameters parameters = .error (.unknownParameter name) := by
  induction parameters generalizing options with
  | nil => cases first
  | cons parameter rest ih =>
    obtain ⟨here, value⟩ := parameter
    by_cases known : here ∈ pageParameters
    · rw [unknownParameters_cons_known known] at first
      rw [options.withParameters_known known, ih _ first]
    · rw [unknownParameters_cons_unknown known] at first
      rw [options.withParameters_unknown known, (List.cons.inj first).1]

theorem withParameters_of_known (options : PageOptions)
    (distinct : (parameters.map Prod.fst).Nodup) (known : unknownParameters parameters = []) :
    options.withParameters parameters = .ok (options.replaced parameters) := by
  induction parameters generalizing options with
  | nil => rfl
  | cons parameter rest ih =>
    obtain ⟨name, value⟩ := parameter
    obtain ⟨fresh, others⟩ := List.nodup_cons.mp distinct
    by_cases here : name ∈ pageParameters
    · have absent : rest.lookup name = none := by
        by_contra found
        exact fresh (Entries.mem_keys_iff.mpr found)
      rw [unknownParameters_cons_known here] at known
      rw [options.withParameters_known here, ih _ others known, options.replaced_cons absent]
    · rw [unknownParameters_cons_unknown here] at known
      cases known

end PageOptions

namespace Format

variable {parameters order : Parameters}

theorem html_writeWith (options : PageOptions) (document : Document) (parameters : Parameters) :
    (html options).writeWith document parameters =
      (options.withParameters parameters).map fun options => writePage options document := rfl

theorem html_accepts (options : PageOptions) (document : Document)
    (distinct : (parameters.map Prod.fst).Nodup) (known : unknownParameters parameters = []) :
    (html options).writeWith document parameters =
      .ok (writePage (options.replaced parameters) document) := by
  rw [html_writeWith, options.withParameters_of_known distinct known]
  rfl

theorem html_refuses_first (options : PageOptions) (document : Document) {name : String}
    {more : List String} (first : unknownParameters parameters = name :: more) :
    (html options).writeWith document parameters = .error (.unknownParameter name) := by
  rw [html_writeWith, options.withParameters_of_unknown first]
  rfl

theorem html_refuses (options : PageOptions)
    (unknown : ∃ name ∈ parameters.map Prod.fst, name ∉ pageParameters) (document : Document) :
    ∃ reason, (html options).writeWith document parameters = .error (.notSupported reason) := by
  cases listed : unknownParameters parameters with
  | nil =>
    obtain ⟨name, given, other⟩ := unknown
    have found : name ∈ unknownParameters parameters :=
      List.mem_filter.mpr ⟨given, decide_eq_true other⟩
    rw [listed] at found
    cases found
  | cons name more => exact ⟨_, html_refuses_first options document listed⟩

theorem html_accepts_perm (options : PageOptions) (document : Document)
    (distinct : (parameters.map Prod.fst).Nodup) (known : unknownParameters parameters = [])
    (same : order.Perm parameters) :
    (html options).writeWith document order =
      .ok (writePage (options.replaced parameters) document) := by
  have others := known ▸ unknownParameters_perm same
  rw [← options.replaced_perm same distinct]
  exact html_accepts options document ((same.map Prod.fst).nodup_iff.mpr distinct) others.eq_nil

/-- In every order an unknown parameter is named. -/
theorem html_refuses_perm (options : PageOptions) (document : Document)
    (unknown : unknownParameters parameters ≠ []) (same : order.Perm parameters) :
    ∃ name ∈ unknownParameters parameters,
      (html options).writeWith document order = .error (.unknownParameter name) := by
  have listed := unknownParameters_perm same
  cases first : unknownParameters order with
  | nil =>
    rw [first] at listed
    exact absurd listed.symm.eq_nil unknown
  | cons name more =>
    rw [first] at listed
    exact ⟨name, listed.mem_iff.mp (by simp), html_refuses_first options document first⟩

/-- An unknown parameter is named in the order that visits it first. -/
theorem html_refuses_in_order (options : PageOptions) (document : Document) {name : String}
    (unknown : name ∈ unknownParameters parameters) :
    ∃ order, order.Perm parameters ∧
      (html options).writeWith document order = .error (.unknownParameter name) := by
  obtain ⟨named, other⟩ := List.mem_filter.mp unknown
  obtain ⟨⟨name, value⟩, given, rfl⟩ := List.mem_map.mp named
  exact ⟨(name, value) :: parameters.erase (name, value), (List.perm_cons_erase given).symm,
    html_refuses_first options document (unknownParameters_cons_unknown (by simpa using other))⟩

/-- Every parameter that is not known is named in some order, and no other one is. -/
theorem html_answers_of_unknown (options : PageOptions) (document : Document)
    (unknown : unknownParameters parameters ≠ []) (answer : Except Failure String) :
    (∃ order, order.Perm parameters ∧ (html options).writeWith document order = answer) ↔
      ∃ name ∈ unknownParameters parameters, answer = .error (.unknownParameter name) := by
  constructor
  · rintro ⟨order, same, rfl⟩
    exact html_refuses_perm options document unknown same
  · rintro ⟨name, hm, rfl⟩
    exact html_refuses_in_order options document hm

/-- If the order does not show, an unknown parameter is the only one. -/
theorem eq_of_order_free (options : PageOptions) (document : Document)
    (free : ∀ order, order.Perm parameters →
      (html options).writeWith document order = (html options).writeWith document parameters)
    {one other : String} (hm : one ∈ unknownParameters parameters)
    (hm' : other ∈ unknownParameters parameters) : one = other := by
  obtain ⟨order, same, named⟩ := html_refuses_in_order options document hm
  obtain ⟨order', same', named'⟩ := html_refuses_in_order options document hm'
  rw [free order same] at named
  rw [free order' same'] at named'
  exact Failure.unknownParameter_injective (Except.error.inj (named.symm.trans named'))

theorem html_order_free_iff (options : PageOptions) (document : Document)
    (distinct : (parameters.map Prod.fst).Nodup) :
    (∀ order, order.Perm parameters →
      (html options).writeWith document order = (html options).writeWith document parameters) ↔
      (unknownParameters parameters).length ≤ 1 := by
  constructor
  · intro free
    have apart : (unknownParameters parameters).Nodup := distinct.filter _
    match listed : unknownParameters parameters with
    | [] | [_] => simp
    | first :: second :: more =>
      have same : first = second :=
        eq_of_order_free options document free (by simp [listed]) (by simp [listed])
      simp [listed, same] at apart
  · intro few order same
    cases listed : unknownParameters parameters with
    | nil =>
      rw [html_accepts_perm options document distinct listed same,
        html_accepts_perm options document distinct listed (.refl _)]
    | cons name more =>
      obtain rfl : more = [] := by
        rw [listed] at few
        simpa using few
      have some : unknownParameters parameters ≠ [] := by simp [listed]
      obtain ⟨_, hm, here⟩ := html_refuses_perm options document some same
      obtain ⟨_, hm', there⟩ := html_refuses_perm options document some (.refl _)
      rw [listed, List.mem_singleton] at hm hm'
      rw [here, there, hm, hm']

/-- The error of a dump names no parameter, so the order never shows in it. -/
theorem json_writeWith_perm (same : order.Perm parameters)
    (distinct : (parameters.map Prod.fst).Nodup) (document : Document) :
    json.writeWith document order = json.writeWith document parameters := by
  have others : (order.any fun parameter => parameter.1 ≠ fieldsOnly) =
      parameters.any fun parameter => parameter.1 ≠ fieldsOnly := same.any_eq
  have asked : order.lookup fieldsOnly = parameters.lookup fieldsOnly :=
    (Entries.lookup_perm same.symm distinct fieldsOnly).symm
  unfold json
  dsimp only
  rw [others, asked]

/-- **Parameters of pages are free of order up to one unknown parameter.** Without parameters a page is
written as by itself. With known parameters alone it is, in whatever order they are visited, the page of
the options with those members replaced. With unknown ones it is an error that names one of them, and
there is an order for each to be named. So the answer is the same in every order just if at most one
parameter is unknown. -/
theorem parameters_order_free_iff (options : PageOptions) (document : Document)
    (parameters : Parameters) (distinct : (parameters.map Prod.fst).Nodup) :
    let write := (html options).writeWith document
    (parameters = [] → write parameters = (html options).write document) ∧
    (unknownParameters parameters = [] → ∀ order, order.Perm parameters →
      write order = .ok (writePage (options.replaced parameters) document)) ∧
    (unknownParameters parameters ≠ [] → ∀ answer,
      (∃ order, order.Perm parameters ∧ write order = answer) ↔
        ∃ name ∈ unknownParameters parameters,
          answer = .error (.notSupported ("Unknown html parameter '" ++ name ++ "'"))) ∧
    ((∀ order, order.Perm parameters → write order = write parameters) ↔
      (unknownParameters parameters).length ≤ 1) := by
  refine ⟨?_, fun known order same => html_accepts_perm options document distinct known same,
    html_answers_of_unknown options document, html_order_free_iff options document distinct⟩
  rintro rfl
  rfl

/-- Two known parameters against the order in which they are given, and two unknown ones among them. -/
theorem parameters_order_free_iff_mixed :
    let mixed : Parameters := [("theme", "dark"), ("method", "get"), ("lang", "de")]
    (html {}).writeWith ⟨"Quiz", []⟩ [("submit-label", "Go"), ("method", "get")] =
        .ok (writePage { form := ⟨"get", "", "Go"⟩ } ⟨"Quiz", []⟩) ∧
      ¬∀ order, order.Perm mixed →
        (html {}).writeWith ⟨"Quiz", []⟩ order = (html {}).writeWith ⟨"Quiz", []⟩ mixed := by
  intro mixed
  have known := (parameters_order_free_iff {} ⟨"Quiz", []⟩
    [("method", "get"), ("submit-label", "Go")] (by decide)).2.1 (by decide)
  have shows := (parameters_order_free_iff {} ⟨"Quiz", []⟩ mixed (by decide)).2.2.2
  exact ⟨known _ (.swap _ _ _), fun free => absurd (shows.mp free) (by decide)⟩

/-- The same two parameters are refused in the name of one or the other. -/
theorem unknown_parameters_named_by_order :
    let one : Parameters := [("lang", "de"), ("theme", "dark")]
    let other : Parameters := [("theme", "dark"), ("lang", "de")]
    one.Perm other ∧
      (html {}).writeWith ⟨"Quiz", []⟩ one =
        .error (.notSupported "Unknown html parameter 'lang'") ∧
      (html {}).writeWith ⟨"Quiz", []⟩ other =
        .error (.notSupported "Unknown html parameter 'theme'") :=
  ⟨.swap _ _ _, rfl, rfl⟩

end Format
end Questionnaire
