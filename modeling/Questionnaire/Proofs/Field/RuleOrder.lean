import Mathlib.Data.List.Nodup
import Questionnaire.Proofs.Field.Classify
import Questionnaire.Proofs.Field.Grammar

/-! # Where the order of the rules matters

The first rule that applies decides. So two orders give the same unless two rules that both apply
stand the other way round in them. The first character tells most rules apart, and no right-hand side
is read by both selects. Only text areas and check boxes are left, which share `[1]` and its like.
-/

namespace Questionnaire
open Text

namespace Rule

variable {input : RuleInput} {rule : Rule}

def Applies (rule : Rule) (input : RuleInput) : Prop := rule.apply input ≠ .ok none

/-! ## The rule that decides -/

inductive Decides (input : RuleInput) (rule : Rule) : List Rule → Prop
  | here {rest : List Rule} (applies : rule.Applies input) : Decides input rule (rule :: rest)
  | behind {first : Rule} {rest : List Rule} (passed : ¬ first.Applies input)
      (more : Decides input rule rest) : Decides input rule (first :: rest)

namespace Decides

variable {rules : List Rule}

theorem mem (h : Decides input rule rules) : rule ∈ rules := by
  induction h with
  | here => exact List.mem_cons_self
  | behind passed more ih => exact List.mem_cons_of_mem _ ih

theorem applies (h : Decides input rule rules) : rule.Applies input := by
  induction h with
  | here applies => exact applies
  | behind passed more ih => exact ih

theorem firstAnswer_eq (h : Decides input rule rules) :
    firstAnswer rules input = rule.apply input := by
  induction h with
  | here applies =>
    rw [firstAnswer]
    split
    · rename_i passed
      exact absurd passed applies
    · rfl
  | behind passed more ih =>
    rw [firstAnswer, not_not.mp passed]
    exact ih

/-- Another rule that applies stands further down. -/
theorem pair_sublist {other : Rule} (h : Decides input rule rules) (hm : other ∈ rules)
    (applies : other.Applies input) (apart : other ≠ rule) : [rule, other].Sublist rules := by
  induction h with
  | here =>
    have below := (List.mem_cons.mp hm).resolve_left apart
    exact .cons_cons rule (List.singleton_sublist.mpr below)
  | @behind first rest passed more ih =>
    rcases List.mem_cons.mp hm with rfl | below
    · exact absurd applies passed
    · exact .cons first (ih below)

end Decides

theorem decides_or_none (rules : List Rule) (input : RuleInput) :
    (∃ rule, Decides input rule rules) ∨ ∀ rule ∈ rules, ¬ rule.Applies input := by
  induction rules with
  | nil => exact .inr fun rule hm => absurd hm List.not_mem_nil
  | cons first rest ih =>
    by_cases applies : first.Applies input
    · exact .inl ⟨first, .here applies⟩
    · rcases ih with ⟨rule, decides⟩ | none
      · exact .inl ⟨rule, .behind applies decides⟩
      · exact .inr (List.forall_mem_cons.mpr ⟨applies, none⟩)

theorem firstAnswer_of_passed {rules : List Rule} (passed : ∀ rule ∈ rules, ¬ rule.Applies input) :
    firstAnswer rules input = .ok none := by
  rw [← List.append_nil rules]
  exact firstAnswer_append fun rule hm => not_not.mp (passed rule hm)

/-- Rules give the same in another order, where no two that both apply are the other way round. -/
theorem firstAnswer_perm {rules rules' : List Rule} (perm : rules.Perm rules')
    (kept : ∀ one other, one.Applies input → other.Applies input → one ≠ other →
      [one, other].Sublist rules → ¬ [other, one].Sublist rules') :
    firstAnswer rules input = firstAnswer rules' input := by
  rcases decides_or_none rules input with ⟨one, decides⟩ | none
  · rcases decides_or_none rules' input with ⟨other, decides'⟩ | none
    · rw [decides.firstAnswer_eq, decides'.firstAnswer_eq]
      by_cases same : one = other
      · rw [same]
      · have above := decides.pair_sublist (perm.mem_iff.mpr decides'.mem) decides'.applies
          (Ne.symm same)
        have above' := decides'.pair_sublist (perm.mem_iff.mp decides.mem) decides.applies same
        exact absurd above' (kept one other decides.applies decides'.applies same above)
    · exact absurd decides.applies (none one (perm.mem_iff.mp decides.mem))
  · have none' : ∀ rule ∈ rules', ¬ rule.Applies input :=
      fun rule hm => none rule (perm.mem_iff.mpr hm)
    rw [firstAnswer_of_passed none, firstAnswer_of_passed none']

/-! ## The rules of the table -/

theorem Applies.head? (hm : rule ∈ table) (h : rule.Applies input) :
    input.rhs.head? = rule.kind.lead := by
  by_contra other
  exact h (apply_of_head? hm other)

theorem nodup_names : (table.map Rule.name).Nodup := by decide

/-- Rules whose right-hand sides start alike. -/
theorem of_lead_eq : ∀ one ∈ table, ∀ other ∈ table, one.kind.lead = other.kind.lead →
    one.name = other.name ∨
      (one.name = "textarea" ∧ other.name = "checkbox_set") ∨
      (one.name = "checkbox_set" ∧ other.name = "textarea") ∨
      (one.kind = .inlineSelect ∧ other.kind = .blockSelect) ∨
      (one.kind = .blockSelect ∧ other.kind = .inlineSelect) := by
  decide

theorem apply_inlineSelect :
    ∀ rule ∈ table, rule.kind = .inlineSelect → rule.apply = inlineSelect := by
  simp [table]

theorem apply_blockSelect :
    ∀ rule ∈ table, rule.kind = .blockSelect → rule.apply = blockSelect := by
  simp [table]

/-- Behind a brace that stands alone no inline select ends. -/
theorem not_both_selects {one other : Rule} (hone : one ∈ table) (hother : other ∈ table)
    (inline : one.kind = .inlineSelect) (block : other.kind = .blockSelect)
    (applies : one.Applies input) : ¬ other.Applies input := by
  intro applies'
  unfold Applies at applies applies'
  rw [apply_inlineSelect one hone inline] at applies
  rw [apply_blockSelect other hother block] at applies'
  by_cases brace : input.rhs = ['{']
  · apply applies
    rw [inlineSelect, brace]
    rfl
  · apply applies'
    rw [blockSelect, if_neg brace]

/-- Two rules apply to the same right-hand side only where one reads a text area and the other
check boxes. -/
theorem names_of_both_apply {one other : Rule} (hone : one ∈ table) (hother : other ∈ table)
    (apart : one ≠ other) (applies : one.Applies input) (applies' : other.Applies input) :
    (one.name = "textarea" ∧ other.name = "checkbox_set") ∨
      (one.name = "checkbox_set" ∧ other.name = "textarea") := by
  have lead : one.kind.lead = other.kind.lead := by
    rw [← applies.head? hone, applies'.head? hother]
  rcases of_lead_eq one hone other hother lead with same | sizes | sizes | selects | selects
  · exact absurd (List.inj_on_of_nodup_map nodup_names hone hother same) apart
  · exact .inl sizes
  · exact .inr sizes
  · exact absurd applies' (not_both_selects hone hother selects.1 selects.2 applies)
  · exact absurd applies (not_both_selects hother hone selects.2 selects.1 applies')

/-- Different names stand in one order. -/
theorem not_sublist_swap {a b : String} {names : List String} (distinct : names.Nodup)
    (h : [a, b].Sublist names) : ¬ [b, a].Sublist names := by
  have ordered : names.Pairwise fun x y => names.idxOf x < names.idxOf y := by
    rw [List.pairwise_iff_getElem]
    intro i j hi hj below
    rw [distinct.idxOf_getElem i hi, distinct.idxOf_getElem j hj]
    exact below
  intro swapped
  have := List.pairwise_iff_forall_sublist.mp ordered h
  have := List.pairwise_iff_forall_sublist.mp ordered swapped
  omega

/-- The table may be permuted, if only text areas stay above check boxes. -/
theorem firstAnswer_table_perm {rules : List Rule} (perm : rules.Perm table)
    (kept : ["textarea", "checkbox_set"].Sublist (rules.map Rule.name)) (input : RuleInput) :
    firstAnswer rules input = firstAnswer table input := by
  have distinct : (rules.map Rule.name).Nodup := (perm.map Rule.name).nodup_iff.mpr nodup_names
  refine firstAnswer_perm perm ?_
  intro one other applies applies' apart above swapped
  have hone : one ∈ table := swapped.subset (by simp)
  have hother : other ∈ table := swapped.subset (by simp)
  have names := above.map Rule.name
  have names' := swapped.map Rule.name
  rw [List.map_cons, List.map_singleton] at names names'
  rcases names_of_both_apply hone hother apart applies applies' with ⟨area, boxes⟩ | ⟨boxes, area⟩
  · rw [area, boxes] at names'
    exact not_sublist_swap nodup_names (by decide) names'
  · rw [area, boxes] at names
    exact not_sublist_swap distinct kept names

/-! ## Kinds -/

theorem textArea_kind {element : Element} (h : textArea input = .ok (some element)) :
    element.kind = .textArea := by
  unfold textArea at h
  split at h
  · cases h
  · cases h
    rfl
  · obtain ⟨rows, rfl⟩ := RuleInput.size_bind_eq_ok h
    rfl

theorem textInput_kind {element : Element} (h : textInput input = .ok (some element)) :
    element.kind = .textInput := by
  unfold textInput at h
  split at h
  · cases h
  · split at h
    · cases h
      rfl
    · split at h
      · cases h
      · cases h
      · obtain ⟨width, rfl⟩ := RuleInput.size_bind_eq_ok h
        rfl

theorem inlineSelect_kind {element : Element} (h : inlineSelect input = .ok (some element)) :
    element.kind = .inlineSelect := by
  unfold inlineSelect at h
  obtain ⟨inner, -, rfl⟩ := Option.map_eq_some_iff.mp (Except.ok.inj h)
  rfl

/-- A rule that gives an element gives one of its kind. -/
theorem kind_of_apply (hm : rule ∈ table) {element : Element}
    (h : rule.apply input = .ok (some element)) : element.kind = rule.kind := by
  simp only [table, List.mem_cons, List.not_mem_nil, or_false] at hm
  rcases hm with rfl | rfl | rfl | rfl | rfl | rfl | rfl
  · exact textArea_kind h
  · exact textInput_kind h
  · dsimp only [radioSet] at h; split at h <;> cases h; rfl
  · dsimp only [checkboxSet] at h; split at h <;> cases h; rfl
  · exact inlineSelect_kind h
  · dsimp only [blockSelect] at h; split at h <;> cases h; rfl
  · dsimp only [bareList] at h; split at h <;> cases h; rfl

end Rule

/-- The element of a field by rules in any order. -/
def classifyBy (rules : List Rule) (header : FieldHeader) (body : List String)
    (options : FieldOptions) : Except Failure Element :=
  let input : RuleInput :=
    { header, rhs := trim header.rhs.toList, body := body.map String.toList, options }
  (Rule.firstAnswer rules input).map fun answer => answer.getD .unmatched

theorem classify_eq_classifyBy : classify = classifyBy Rule.table := rfl

/-- Only where a text area and check boxes are read does the order of the rules matter: no other two
rules apply to the same field. Every order that keeps these two gives the same element or the same
error, and what a rule gives is of its kind. -/
theorem rule_order_matters_once :
    (∀ one ∈ Rule.table, ∀ other ∈ Rule.table, one ≠ other → ∀ input : RuleInput,
      one.Applies input → other.Applies input →
        (one.name = "textarea" ∧ other.name = "checkbox_set") ∨
          (one.name = "checkbox_set" ∧ other.name = "textarea")) ∧
    (∀ rules : List Rule, rules.Perm Rule.table →
      ["textarea", "checkbox_set"].Sublist (rules.map Rule.name) → ∀ header body options,
        classifyBy rules header body options = classify header body options) ∧
    ∀ rule ∈ Rule.table, ∀ input element, rule.apply input = .ok (some element) →
      element.kind = rule.kind := by
  refine ⟨?_, ?_, ?_⟩
  · intro one hone other hother apart input applies applies'
    exact Rule.names_of_both_apply hone hother apart applies applies'
  · intro rules perm kept header body options
    rw [classify_eq_classifyBy]
    unfold classifyBy
    dsimp only
    rw [Rule.firstAnswer_table_perm perm kept]
  · intro rule hm input element given
    exact Rule.kind_of_apply hm given

-- Where check boxes come first, a size is the marker of a choice.
example :
    let header : FieldHeader := ⟨"quiz_essay", "essay", "Essay", false, "[1]", "essay = [1]"⟩
    (classify header [] {}).map Element.kind = .ok .textArea ∧
      (classifyBy Rule.table.reverse header [] {}).map Element.kind = .ok .checkboxSet := by
  decide +kernel

end Questionnaire
