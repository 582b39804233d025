import Mathlib.Data.List.Basic
import Questionnaire.Proofs.Text.Runs

/-! # Patterns that are matched by backtracking

A pattern lists all its matches at the start of a text, the preferred ones first: a greedy run comes
with its longest match first and a lazy one with its shortest, and a part that may be left out is
preferred to be there. The first match of the whole list is the one a backtracking matcher stops at.
-/

namespace Questionnaire.Text

/-- A match: what it took off the text, what its groups captured, and what it left. -/
structure Match where
  taken : List Char
  captures : List (String × List Char)
  rest : List Char

def Match.andThen (first second : Match) : Match :=
  ⟨first.taken ++ second.taken, first.captures ++ second.captures, second.rest⟩

def Match.none (text : List Char) : Match := ⟨[], [], text⟩

inductive Pattern where
  /-- One character of a class. -/
  | one (p : Char → Bool)
  /-- Characters of a class, as many as possible. -/
  | many (p : Char → Bool)
  /-- Characters of a class, as few as possible. -/
  | few (p : Char → Bool)
  /-- Characters of a class, as many as possible up to a bound. -/
  | atMost (bound : Nat) (p : Char → Bool)
  | seq (first second : Pattern)
  /-- The first of two patterns, or else the second one. -/
  | either (first second : Pattern)
  | optional (inner : Pattern)
  | capture (name : String) (inner : Pattern)
  /-- The end of the text. -/
  | ended

def single (p : Char → Bool) : List Char → List Match
  | [] => []
  | c :: rest => if p c then [⟨[c], [], rest⟩] else []

/-- The runs of a class at the start of a text, the shortest first. -/
def runs (p : Char → Bool) : List Char → List Match
  | [] => [.none []]
  | c :: rest =>
    .none (c :: rest) ::
      if p c then (runs p rest).map fun m => { m with taken := c :: m.taken } else []

namespace Pattern

/-- All matches at the start of a text, in the order of preference. -/
def results : Pattern → List Char → List Match
  | one p, text => single p text
  | many p, text => (runs p text).reverse
  | few p, text => runs p text
  | atMost bound p, text => ((runs p text).filter fun m => m.taken.length ≤ bound).reverse
  | seq first second, text =>
    (first.results text).flatMap fun m => (second.results m.rest).map m.andThen
  | either first second, text => first.results text ++ second.results text
  | optional inner, text => inner.results text ++ [.none text]
  | capture name inner, text =>
    (inner.results text).map fun m => { m with captures := (name, m.taken) :: m.captures }
  | ended, text => if text.isEmpty then [.none []] else []

variable (p : Char → Bool) (first second inner : Pattern) (name : String) (text : List Char)

theorem results_one : (one p).results text = single p text := rfl

theorem results_many : (many p).results text = (runs p text).reverse := rfl

theorem results_few : (few p).results text = runs p text := rfl

theorem results_atMost (bound : Nat) : (atMost bound p).results text =
    ((runs p text).filter fun m => m.taken.length ≤ bound).reverse := rfl

theorem results_seq : (seq first second).results text =
    (first.results text).flatMap fun m => (second.results m.rest).map m.andThen := rfl

theorem results_either :
    (either first second).results text = first.results text ++ second.results text := rfl

theorem results_optional : (optional inner).results text = inner.results text ++ [.none text] := rfl

theorem results_capture : (capture name inner).results text =
    (inner.results text).map fun m => { m with captures := (name, m.taken) :: m.captures } := rfl

theorem results_ended : ended.results text = if text.isEmpty then [.none []] else [] := rfl

end Pattern

/-! ## All matches -/

variable {p : Char → Bool} {text : List Char}

theorem runs_cons (c : Char) (rest : List Char) :
    runs p (c :: rest) = .none (c :: rest) ::
      if p c then (runs p rest).map fun m => { m with taken := c :: m.taken } else [] := rfl

theorem mem_runs {m : Match} (h : m ∈ runs p text) :
    text = m.taken ++ m.rest ∧ (∀ c ∈ m.taken, p c = true) ∧ m.captures = [] := by
  induction text generalizing m with
  | nil =>
    rw [List.mem_singleton.mp h]
    exact ⟨rfl, by simp [Match.none], rfl⟩
  | cons c rest ih =>
    rw [runs_cons, List.mem_cons] at h
    rcases h with rfl | h
    · simp [Match.none]
    · split at h
      · rename_i inside
        obtain ⟨m, hm, rfl⟩ := List.mem_map.mp h
        obtain ⟨whole, run, captures⟩ := ih hm
        exact ⟨by rw [whole]; rfl, List.forall_mem_cons.mpr ⟨inside, run⟩, captures⟩
      · cases h

/-- A run is listed behind shorter ones and before those that go on with what it left. -/
theorem runs_append {front : List Char} (inside : ∀ c ∈ front, p c = true) (back : List Char) :
    ∃ shorter : List Match,
      runs p (front ++ back) =
          shorter ++ (runs p back).map (fun m => { m with taken := front ++ m.taken }) ∧
        ∀ m ∈ shorter, m.captures = [] ∧
          ∃ left ≠ [], front = m.taken ++ left ∧ m.rest = left ++ back := by
  induction front with
  | nil => exact ⟨[], by simp, by simp⟩
  | cons c front ih =>
    obtain ⟨here, more⟩ := List.forall_mem_cons.mp inside
    obtain ⟨shorter, listed, before⟩ := ih more
    refine ⟨.none (c :: front ++ back) ::
      shorter.map fun m => { m with taken := c :: m.taken }, ?_, ?_⟩
    · rw [List.cons_append, runs_cons, if_pos here, listed, List.map_append, List.map_map]
      rfl
    · intro m hm
      rcases List.mem_cons.mp hm with rfl | hm
      · exact ⟨rfl, c :: front, by simp, rfl, rfl⟩
      · obtain ⟨short, hs, rfl⟩ := List.mem_map.mp hm
        obtain ⟨captures, left, ne, whole, rest⟩ := before short hs
        exact ⟨captures, left, ne, by rw [whole]; rfl, rest⟩

theorem runs_of_stop (stop : ∀ c ∈ text.head?, p c = false) : runs p text = [.none text] := by
  cases text with
  | nil => rfl
  | cons c rest => rw [runs_cons, if_neg (by simp [stop c rfl])]

theorem runs_head (p : Char → Bool) (text : List Char) :
    ∃ more, runs p text = .none text :: more := by
  cases text with
  | nil => exact ⟨[], rfl⟩
  | cons c rest => exact ⟨_, rfl⟩

namespace Pattern

theorem mem_one {m : Match} (h : m ∈ (one p).results text) :
    ∃ c, p c = true ∧ text = c :: m.rest ∧ m.taken = [c] ∧ m.captures = [] := by
  rw [results_one] at h
  cases text with
  | nil => cases h
  | cons c rest =>
    by_cases inside : p c = true
    · rw [single, if_pos inside] at h
      rw [List.mem_singleton.mp h]
      exact ⟨c, inside, rfl, rfl, rfl⟩
    · rw [single, if_neg inside] at h
      cases h

theorem mem_one_cons {c : Char} (inside : p c = true) (rest : List Char) :
    ⟨[c], [], rest⟩ ∈ (one p).results (c :: rest) := by
  rw [results_one, single, if_pos inside]
  exact List.mem_singleton_self _

theorem mem_many {m : Match} (h : m ∈ (many p).results text) :
    text = m.taken ++ m.rest ∧ (∀ c ∈ m.taken, p c = true) ∧ m.captures = [] :=
  mem_runs (List.mem_reverse.mp h)

theorem mem_many_append {run : List Char} (inside : ∀ c ∈ run, p c = true) (rest : List Char) :
    ⟨run, [], rest⟩ ∈ (many p).results (run ++ rest) := by
  obtain ⟨shorter, listed, -⟩ := runs_append inside rest
  obtain ⟨more, hd⟩ := runs_head p rest
  rw [results_many, List.mem_reverse, listed, hd]
  simp [Match.none]

theorem mem_atMost {bound : Nat} {m : Match} (h : m ∈ (atMost bound p).results text) :
    m ∈ (many p).results text ∧ m.taken.length ≤ bound := by
  rw [results_atMost, List.mem_reverse, List.mem_filter, decide_eq_true_eq] at h
  exact ⟨List.mem_reverse.mpr h.1, h.2⟩

theorem mem_atMost_append {bound : Nat} {run : List Char} (inside : ∀ c ∈ run, p c = true)
    (short : run.length ≤ bound) (rest : List Char) :
    ⟨run, [], rest⟩ ∈ (atMost bound p).results (run ++ rest) := by
  have whole := mem_many_append inside rest
  rw [results_many, List.mem_reverse] at whole
  rw [results_atMost, List.mem_reverse, List.mem_filter]
  exact ⟨whole, decide_eq_true short⟩

theorem mem_either {first second : Pattern} {m : Match} :
    m ∈ (either first second).results text ↔ m ∈ first.results text ∨ m ∈ second.results text := by
  rw [results_either, List.mem_append]

theorem mem_seq {first second : Pattern} {m : Match} :
    m ∈ (seq first second).results text ↔
      ∃ n ∈ first.results text, ∃ l ∈ second.results n.rest, n.andThen l = m := by
  simp [results_seq]

theorem andThen_mem_seq {first second : Pattern} {n l : Match} (hn : n ∈ first.results text)
    (hl : l ∈ second.results n.rest) : n.andThen l ∈ (seq first second).results text :=
  mem_seq.mpr ⟨n, hn, l, hl, rfl⟩

theorem mem_optional {inner : Pattern} {m : Match} :
    m ∈ (optional inner).results text ↔ m ∈ inner.results text ∨ m = .none text := by
  simp [results_optional]

theorem mem_capture {name : String} {inner : Pattern} {m : Match} :
    m ∈ (capture name inner).results text ↔
      ∃ n ∈ inner.results text, { n with captures := (name, n.taken) :: n.captures } = m := by
  simp [results_capture]

theorem mem_ended {m : Match} : m ∈ ended.results text ↔ text = [] ∧ m = .none [] := by
  cases text <;> simp [results_ended]

/-! ## The first match -/

/-- The answer of `k` to the first match that it accepts. -/
def firstOf {β : Type} (pattern : Pattern) (text : List Char) (k : Match → Option β) : Option β :=
  (pattern.results text).findSome? k

variable {β : Type} {k : Match → Option β}

theorem head?_results (pattern : Pattern) (text : List Char) :
    (pattern.results text).head? = pattern.firstOf text some := by
  unfold firstOf
  cases pattern.results text <;> rfl

theorem firstOf_eq_none {pattern : Pattern} (h : ∀ m ∈ pattern.results text, k m = none) :
    pattern.firstOf text k = none := List.findSome?_eq_none_iff.mpr h

theorem firstOf_congr {pattern : Pattern} {k' : Match → Option β}
    (h : ∀ m ∈ pattern.results text, k m = k' m) :
    pattern.firstOf text k = pattern.firstOf text k' := by
  unfold firstOf
  generalize pattern.results text = found at h
  induction found with
  | nil => rfl
  | cons m more ih =>
    obtain ⟨here, others⟩ := List.forall_mem_cons.mp h
    rw [List.findSome?_cons, List.findSome?_cons, here, ih others]

/-- Where all matches get the same answer, it does not matter which one is the first. -/
theorem firstOf_eq_some {pattern : Pattern} {m : Match} (hm : m ∈ pattern.results text) {b : β}
    (h : ∀ m ∈ pattern.results text, k m = some b) : pattern.firstOf text k = some b := by
  obtain ⟨first, more, listed⟩ := List.exists_cons_of_ne_nil (List.ne_nil_of_mem hm)
  rw [firstOf, listed, List.findSome?_cons, h first (by simp [listed])]

theorem firstOf_one {c : Char} (inside : p c = true) (rest : List Char) :
    (one p).firstOf (c :: rest) k = k ⟨[c], [], rest⟩ := by
  rw [firstOf, results_one, single, if_pos inside]
  simp

theorem firstOf_one_of_stop (stop : ∀ c ∈ text.head?, p c = false) :
    (one p).firstOf text k = none := by
  cases text with
  | nil => rfl
  | cons c rest =>
    rw [firstOf, results_one, single, if_neg (by simp [stop c rfl])]
    rfl

/-- If the longest run is accepted, it is the first one. -/
theorem firstOf_many {run rest : List Char} (whole : text = run ++ rest)
    (inside : ∀ c ∈ run, p c = true) (stop : ∀ c ∈ rest.head?, p c = false) {b : β}
    (h : k ⟨run, [], rest⟩ = some b) : (many p).firstOf text k = some b := by
  obtain ⟨shorter, listed, -⟩ := runs_append inside rest
  rw [whole, firstOf, results_many, listed, runs_of_stop stop]
  simp [Match.none, h]

/-- If a run is accepted and no shorter one is, it is the first one. -/
theorem firstOf_few {front back : List Char} (whole : text = front ++ back)
    (inside : ∀ c ∈ front, p c = true)
    (shorter : ∀ taken left, left ≠ [] → front = taken ++ left → k ⟨taken, [], left ++ back⟩ = none)
    {b : β} (h : k ⟨front, [], back⟩ = some b) : (few p).firstOf text k = some b := by
  obtain ⟨before, listed, short⟩ := runs_append inside back
  obtain ⟨more, hd⟩ := runs_head p back
  have refused : before.findSome? k = none := by
    apply List.findSome?_eq_none_iff.mpr
    rintro ⟨taken, captures, rest⟩ hm
    obtain ⟨rfl, left, ne, split, rfl⟩ := short _ hm
    exact shorter taken left ne split
  rw [whole, firstOf, results_few, listed, hd, List.findSome?_append, refused]
  simp [Match.none, h]

/-- A lazy run stops at once, or it takes one character and goes on. -/
theorem firstOf_few_cons {c : Char} (inside : p c = true) (rest : List Char) :
    (few p).firstOf (c :: rest) k =
      (k (.none (c :: rest))).or
        ((few p).firstOf rest fun m => k { m with taken := c :: m.taken }) := by
  rw [firstOf, results_few, runs_cons, if_pos inside, List.findSome?_cons, List.findSome?_map]
  cases k (.none (c :: rest)) <;> rfl

theorem firstOf_seq (first second : Pattern) :
    (seq first second).firstOf text k =
      first.firstOf text fun m => second.firstOf m.rest fun n => k (m.andThen n) := by
  unfold firstOf
  rw [results_seq]
  induction first.results text with
  | nil => rfl
  | cons m more ih =>
    rw [List.flatMap_cons, List.findSome?_append, ih, List.findSome?_map, List.findSome?_cons]
    change Option.or ((second.results m.rest).findSome? fun n => k (m.andThen n)) _ = _
    cases (second.results m.rest).findSome? fun n => k (m.andThen n) <;> rfl

/-- A part that may be left out is preferred to be there. -/
theorem firstOf_optional (inner : Pattern) :
    (optional inner).firstOf text k = (inner.firstOf text k).or (k (.none text)) := by
  rw [firstOf, results_optional, List.findSome?_append]
  simp [firstOf]

theorem firstOf_optional_of_some {inner : Pattern} {b : β} (h : inner.firstOf text k = some b) :
    (optional inner).firstOf text k = some b := by
  rw [firstOf_optional, h, Option.some_or]

theorem firstOf_optional_of_none {inner : Pattern} (h : inner.firstOf text k = none) :
    (optional inner).firstOf text k = k (.none text) := by
  rw [firstOf_optional, h, Option.none_or]

theorem firstOf_capture (name : String) (inner : Pattern) :
    (capture name inner).firstOf text k =
      inner.firstOf text fun m => k { m with captures := (name, m.taken) :: m.captures } := by
  rw [firstOf, results_capture, List.findSome?_map]
  rfl

theorem firstOf_ended : ended.firstOf [] k = k (.none []) := by
  simp [firstOf, results_ended]

end Pattern
end Questionnaire.Text
