import Questionnaire.Proofs.Text.Pattern

/-! # Scanning with a pattern, and slices by bytes

A pattern is looked for from left to right, and behind a match the search goes on where the match ends.
Places in a text are counted in bytes. There is a slice just between two places in order at each of which
a character starts or the text ends.
-/

namespace Questionnaire.Text

/-! ## Bytes -/

def byteLength : List Char → Nat
  | [] => 0
  | c :: rest => c.utf8Size + byteLength rest

@[simp]
theorem byteLength_nil : byteLength [] = 0 := rfl

@[simp]
theorem byteLength_cons (c : Char) (text : List Char) :
    byteLength (c :: text) = c.utf8Size + byteLength text := rfl

@[simp]
theorem byteLength_append (front back : List Char) :
    byteLength (front ++ back) = byteLength front + byteLength back := by
  induction front with
  | nil => simp
  | cons c front ih => simp [ih, Nat.add_assoc]

def cutAtByte : Nat → List Char → Option (List Char × List Char)
  | 0, text => some ([], text)
  | _ + 1, [] => none
  | place + 1, c :: rest =>
    if c.utf8Size ≤ place + 1 then
      (cutAtByte (place + 1 - c.utf8Size) rest).map fun cut => (c :: cut.1, cut.2)
    else none

def slice? (start stop : Nat) (text : List Char) : Option (List Char) :=
  if start ≤ stop then
    (cutAtByte start text).bind fun cut => (cutAtByte (stop - start) cut.2).map Prod.fst
  else none

section

variable {text front inside back : List Char} {start stop place : Nat}

theorem cutAtByte_zero (text : List Char) : cutAtByte 0 text = some ([], text) := by
  cases text <;> rfl

/-- A character is passed over as a whole. -/
theorem cutAtByte_cons {c : Char} (inside : c.utf8Size ≤ place) (rest : List Char) :
    cutAtByte place (c :: rest) =
      (cutAtByte (place - c.utf8Size) rest).map fun cut => (c :: cut.1, cut.2) := by
  have positive := c.utf8Size_pos
  obtain ⟨before, rfl⟩ : ∃ before, place = before + 1 := ⟨place - 1, by omega⟩
  exact if_pos inside

theorem cutAtByte_append (front back : List Char) :
    cutAtByte (byteLength front) (front ++ back) = some (front, back) := by
  induction front with
  | nil => exact cutAtByte_zero back
  | cons c front ih =>
    rw [byteLength_cons, List.cons_append, cutAtByte_cons (Nat.le_add_right _ _),
      Nat.add_sub_cancel_left, ih]
    rfl

theorem of_cutAtByte (h : cutAtByte place text = some (front, back)) :
    text = front ++ back ∧ place = byteLength front := by
  induction text generalizing place front with
  | nil =>
    cases place with
    | zero =>
      cases h
      exact ⟨rfl, rfl⟩
    | succ place => cases h
  | cons c rest ih =>
    cases place with
    | zero =>
      cases h
      exact ⟨rfl, rfl⟩
    | succ place =>
      by_cases fits : c.utf8Size ≤ place + 1
      · rw [cutAtByte_cons fits] at h
        obtain ⟨⟨before, after⟩, cut, he⟩ := Option.map_eq_some_iff.mp h
        cases he
        obtain ⟨whole, left⟩ := ih cut
        exact ⟨by rw [whole, List.cons_append], by rw [byteLength_cons, ← left]; omega⟩
      · rw [cutAtByte, if_neg fits] at h
        cases h

/-- A slice lies in the text, with its start not behind its end. -/
theorem slice?_eq_some_iff :
    slice? start stop text = some inside ↔
      ∃ front back, text = front ++ inside ++ back ∧ start = byteLength front ∧
        stop = byteLength (front ++ inside) := by
  constructor
  · intro h
    unfold slice? at h
    split at h
    · rename_i ordered
      obtain ⟨⟨front, behind⟩, first, h⟩ := Option.bind_eq_some_iff.mp h
      obtain ⟨⟨taken, back⟩, second, rfl⟩ := Option.map_eq_some_iff.mp h
      obtain ⟨rfl, rfl⟩ := of_cutAtByte first
      obtain ⟨rfl, long⟩ := of_cutAtByte second
      refine ⟨front, back, (List.append_assoc ..).symm, rfl, ?_⟩
      rw [byteLength_append, ← long]
      omega
    · cases h
  · rintro ⟨front, back, rfl, rfl, rfl⟩
    have long : byteLength (front ++ inside) - byteLength front = byteLength inside := by
      rw [byteLength_append, Nat.add_sub_cancel_left]
    rw [slice?, if_pos (by simp), List.append_assoc, cutAtByte_append, Option.bind_some, long,
      cutAtByte_append, Option.map_some]

end

/-! ## Scanning -/

structure Found where
  start : Nat
  found : Match

def Found.stop (found : Found) : Nat := found.start + byteLength found.found.taken

namespace Pattern

/-- The matches of a pattern that takes something, from left to right in a text at a place, after
passing over `skip` characters. -/
def scan (pattern : Pattern) : (place skip : Nat) → List Char → List Found
  | _, _, [] => []
  | place, skip + 1, c :: rest => pattern.scan (place + c.utf8Size) skip rest
  | place, 0, c :: rest =>
    match (pattern.results (c :: rest)).head? with
    | some m => ⟨place, m⟩ :: pattern.scan (place + c.utf8Size) (m.taken.length - 1) rest
    | none => pattern.scan (place + c.utf8Size) 0 rest

variable {pattern : Pattern} {m : Match} {front rest : List Char}

theorem scan_skip (place : Nat) (front rest : List Char) :
    pattern.scan place front.length (front ++ rest) =
      pattern.scan (place + byteLength front) 0 rest := by
  induction front generalizing place with
  | nil => rfl
  | cons c front ih =>
    rw [byteLength_cons, ← Nat.add_assoc, ← ih]
    rfl

theorem scan_pass {c : Char} (none : (pattern.results (c :: rest)).head? = none) (place : Nat) :
    pattern.scan place 0 (c :: rest) = pattern.scan (place + c.utf8Size) 0 rest := by
  rw [scan, none]

theorem scan_match (occupied : m.taken ≠ [])
    (first : (pattern.results (m.taken ++ rest)).head? = some m) (place : Nat) :
    pattern.scan place 0 (m.taken ++ rest) =
      ⟨place, m⟩ :: pattern.scan (place + byteLength m.taken) 0 rest := by
  obtain ⟨c, more, taken⟩ := List.exists_cons_of_ne_nil occupied
  rw [taken, List.cons_append] at first ⊢
  rw [scan, first]
  dsimp only
  rw [taken, List.length_cons, Nat.add_sub_cancel, scan_skip, byteLength_cons, Nat.add_assoc]

end Pattern
end Questionnaire.Text
