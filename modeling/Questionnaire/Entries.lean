/-! Values by key, in the order in which their keys were first put. Entries that are made by putting
alone have no key twice. -/

namespace Questionnaire

abbrev Entries (κ α : Type) := List (κ × α)

namespace Entries

variable {κ α : Type} [BEq κ]

/-- Set the value of a key, in the place of an earlier value. -/
def put (key : κ) (value : α) : Entries κ α → Entries κ α
  | [] => [(key, value)]
  | (other, old) :: rest =>
    if key == other then (key, value) :: rest else (other, old) :: put key value rest

def without (key : κ) (entries : Entries κ α) : Entries κ α :=
  entries.filter fun (other, _) => !(key == other)

variable [LawfulBEq κ]

/-- The key that was put has the new value. -/
theorem lookup_put (key : κ) (value : α) (entries : Entries κ α) :
    (put key value entries).lookup key = some value := by
  induction entries with
  | nil => simp [put]
  | cons entry rest ih =>
    obtain ⟨other, old⟩ := entry
    cases same : key == other with
    | true => simp [put, same]
    | false => simp [put, List.lookup_cons, same, ih]

/-- Other keys keep their values. -/
theorem lookup_put_of_ne {key other : κ} (h : other ≠ key) (value : α) (entries : Entries κ α) :
    (put key value entries).lookup other = entries.lookup other := by
  have differs : (other == key) = false := beq_eq_false_iff_ne.mpr h
  induction entries with
  | nil => simp [put, List.lookup_cons, differs]
  | cons entry rest ih =>
    obtain ⟨here, old⟩ := entry
    cases same : key == here with
    | true => simp [put, List.lookup_cons, differs, eq_of_beq same ▸ differs, same]
    | false => simp [put, List.lookup_cons, same, ih]

theorem mem_keys_put {key other : κ} {value : α} {entries : Entries κ α} :
    other ∈ (put key value entries).map Prod.fst ↔ other = key ∨ other ∈ entries.map Prod.fst := by
  induction entries with
  | nil => simp [put]
  | cons entry rest ih =>
    obtain ⟨here, old⟩ := entry
    cases same : key == here with
    | true => simp [put, eq_of_beq same]
    | false =>
      simp only [put, same, Bool.false_eq_true, if_false, List.map_cons, List.mem_cons, ih]
      exact or_left_comm

theorem nodup_keys_put {entries : Entries κ α} (distinct : (entries.map Prod.fst).Nodup) (key : κ)
    (value : α) : ((put key value entries).map Prod.fst).Nodup := by
  induction entries with
  | nil => simp [put]
  | cons entry rest ih =>
    obtain ⟨here, old⟩ := entry
    obtain ⟨fresh, others⟩ := List.nodup_cons.mp distinct
    cases same : key == here with
    | true => simpa [put, eq_of_beq same] using distinct
    | false =>
      have apart : here ≠ key := (ne_of_beq_false same).symm
      simp only [put, same, Bool.false_eq_true, if_false, List.map_cons]
      exact List.nodup_cons.mpr ⟨by rw [mem_keys_put]; simp [apart, fresh], ih others⟩

theorem mem_keys_iff {key : κ} {entries : Entries κ α} :
    key ∈ entries.map Prod.fst ↔ entries.lookup key ≠ none := by
  rw [Ne, List.lookup_eq_none_iff]
  simp

/-- An order in which entries are visited where their own order means nothing. It may be another one
for other entries. -/
structure Order (κ α : Type) where
  visit : Entries κ α → Entries κ α
  perm : ∀ entries, (visit entries).Perm entries

def Order.asGiven {κ α : Type} : Order κ α := ⟨id, fun _ => .refl _⟩

end Entries
end Questionnaire
