import Questionnaire.Proofs.Json.Tokens

/-! # Written values read back

The tokens of a value build the value again, wherever it stands: in an array, behind a name or alone.
-/

namespace Questionnaire.Json

namespace Reader

/-- Where a value may begin, to be read into the given arrays and objects. -/
def Starts (reader : Reader) (outer : List Frame) : Prop :=
  ∀ token, token ≠ .mark ']' → reader.step token = start outer token

theorem starts_valueDue (outer : List Frame) : (valueDue outer).Starts outer := fun _ _ => rfl

theorem starts_inArray (outer : List Frame) : (inArray outer).Starts (.array [] :: outer) := by
  intro token other
  rw [step]
  exact other

theorem foldlM_step {reader next : Reader} {token : Token} (h : reader.step token = some next)
    (rest : List Token) : (token :: rest).foldlM step reader = rest.foldlM step next := by
  rw [List.foldlM_cons, h]
  rfl

/-- A name with its colon begins a member. -/
theorem foldlM_name {reader : Reader} {before : List (String × Json)} {outer : List Frame}
    {name : String} (h : reader.step (.string name) = some (.colonDue before name outer))
    (rest : List Token) :
    (.string name :: .mark ':' :: rest).foldlM step reader =
      rest.foldlM step (.valueDue (.object before name :: outer)) :=
  (foldlM_step h _).trans (foldlM_step rfl rest)

end Reader

open Reader

mutual
/-- Where a value may begin, its tokens are read up to its end. -/
theorem foldlM_tokens (json : Json) {reader : Reader} {outer : List Frame}
    (starts : reader.Starts outer) (rest : List Token) :
    (json.tokens ++ rest).foldlM step reader = rest.foldlM step (.behind json outer) := by
  cases json with
  | null => exact foldlM_step (starts _ (by simp)) rest
  | bool b => exact foldlM_step (starts _ (by simp)) rest
  | number n => exact foldlM_step (starts _ (by simp)) rest
  | string s => exact foldlM_step (starts _ (by simp)) rest
  | array items =>
    have opened : reader.step (.mark '[') = some (.inArray outer) := starts _ (by simp)
    cases items with
    | nil => exact (foldlM_step opened _).trans (foldlM_step rfl rest)
    | cons item items =>
      rw [tokens, List.append_assoc, List.append_assoc, List.cons_append, foldlM_step opened,
        foldlM_tokens item (starts_inArray outer), List.singleton_append,
        foldlM_itemTokens item items [] outer]
      rfl
  | object members =>
    have opened : reader.step (.mark '{') = some (.inObject outer) := starts _ (by simp)
    cases members with
    | nil => exact (foldlM_step opened _).trans (foldlM_step rfl rest)
    | cons member members =>
      obtain ⟨name, value⟩ := member
      simp only [tokens, List.append_assoc, List.cons_append]
      rw [foldlM_step opened, foldlM_name rfl,
        foldlM_tokens value (starts_valueDue (.object [] name :: outer)), List.nil_append,
        foldlM_memberTokens name value members [] outer]
      rfl

/-- Behind an item, the other items of its array are read up to the bracket that closes it. -/
theorem foldlM_itemTokens (item : Json) (items before : List Json) (outer : List Frame)
    (rest : List Token) :
    (itemTokens items ++ .mark ']' :: rest).foldlM step (.behind item (.array before :: outer)) =
      rest.foldlM step (.behind (.array (before.reverse ++ item :: items)) outer) := by
  cases items with
  | nil =>
    rw [itemTokens, List.nil_append, ← List.reverse_cons]
    exact foldlM_step rfl rest
  | cons next items =>
    have further := foldlM_itemTokens next items (item :: before) outer rest
    rw [List.reverse_cons, List.append_assoc] at further
    rw [itemTokens, List.append_assoc, List.cons_append, foldlM_step rfl,
      foldlM_tokens next (starts_valueDue (.array (item :: before) :: outer))]
    exact further

/-- Behind a member, the other members of its object are read up to the brace that closes it. -/
theorem foldlM_memberTokens (name : String) (value : Json)
    (members before : List (String × Json)) (outer : List Frame) (rest : List Token) :
    (memberTokens members ++ .mark '}' :: rest).foldlM step
        (.behind value (.object before name :: outer)) =
      rest.foldlM step (.behind (.object (before.reverse ++ (name, value) :: members)) outer) := by
  cases members with
  | nil =>
    rw [memberTokens, List.nil_append, ← List.reverse_cons]
    exact foldlM_step rfl rest
  | cons member members =>
    obtain ⟨next, other⟩ := member
    have further := foldlM_memberTokens next other members ((name, value) :: before) outer rest
    rw [List.reverse_cons, List.append_assoc] at further
    simp only [memberTokens, List.append_assoc, List.cons_append]
    rw [foldlM_step rfl, foldlM_name rfl,
      foldlM_tokens other (starts_valueDue (.object ((name, value) :: before) next :: outer))]
    exact further
end

/-- **The indented form of a value is JSON for this value.** -/
theorem read?_pretty (json : Json) : read? json.pretty = some json := by
  have cut : tokens? (write 0 json) = some json.tokens := by
    have whole := @tokens?_write 0 json [] (fun _ hc => by cases hc)
    rw [tokens?_nil] at whole
    simpa using whole
  have built := foldlM_tokens json (starts_valueDue []) []
  rw [List.append_nil] at built
  rw [read?, pretty, String.toList_ofList, cut, Option.bind_eq_bind, Option.bind_some, built]
  rfl

/-- Text that is not JSON is not read. -/
example : (read? "[1,]").isNone ∧ (read? "\"\n\"").isNone ∧ (read? "01").isNone := by cbv

end Questionnaire.Json
