import Mathlib.Data.Nat.Init
import Questionnaire.Proofs.Document.Reading
import Questionnaire.Proofs.Document.Scope

/-! # The first free scope

The search for a number goes on as long as names are in use, and it ends, since of one more name than
are in use one is free. For every slug all names up to the remembered number are in use: so the search that
goes on behind that number ends where a search from 2 on does, at the first free name.
-/

namespace Questionnaire

/-- A search for a free name, from a number to the one where it ends. -/
inductive Search (names : List String) (slug : String) : (start found : Nat) → Prop
  | stop {n : Nat} (free : numberedSlug slug n ∉ names) : Search names slug n n
  | next {n found : Nat} (taken : numberedSlug slug n ∈ names)
      (more : Search names slug (n + 1) found) : Search names slug n found

namespace Search

variable {names : List String} {slug : String} {start found : Nat}

theorem free (h : Search names slug start found) : numberedSlug slug found ∉ names := by
  induction h with
  | stop free => exact free
  | next taken more ih => exact ih

/-- A search passes over names in use alone. -/
theorem taken (h : Search names slug start found) :
    start ≤ found ∧ ∀ n, start ≤ n → n < found → numberedSlug slug n ∈ names := by
  induction h with
  | stop => exact ⟨Nat.le_refl _, fun n _ _ => by omega⟩
  | @next start found taken more ih =>
    obtain ⟨le, passed⟩ := ih
    refine ⟨by omega, fun n above below => ?_⟩
    rcases Nat.eq_or_lt_of_le above with rfl | later
    · exact taken
    · exact passed n later below

/-- A search may as well begin further down, where all names are in use. -/
theorem of_taken {lower : Nat} (h : Search names slug start found) (le : lower ≤ start)
    (taken : ∀ n, lower ≤ n → n < start → numberedSlug slug n ∈ names) :
    Search names slug lower found := by
  induction le using Nat.decreasingInduction with
  | self => exact h
  | of_succ n below ih =>
    exact .next (taken n (Nat.le_refl n) below) (ih fun m above => taken m (by omega))

/-- A search ends at one place. -/
theorem unique {other : Nat} (h : Search names slug start found)
    (h' : Search names slug start other) : found = other := by
  rcases Nat.lt_trichotomy found other with less | same | more
  · exact absurd (h'.taken.2 found h.taken.1 less) h.free
  · exact same
  · exact absurd (h.taken.2 other h'.taken.1 more) h'.free

/-- Only which names are in use matters, not their order. -/
theorem congr {names' : List String} (same : ∀ name, name ∈ names ↔ name ∈ names')
    (h : Search names slug start found) : Search names' slug start found := by
  induction h with
  | stop free => exact .stop fun hm => free ((same _).mpr hm)
  | next taken more ih => exact .next ((same _).mp taken) ih

end Search

/-- The name of a slug where some names are in use: itself, or with the first free number. -/
inductive FirstFree (names : List String) (slug : String) : String → Prop
  | plain (free : slug ∉ names) : FirstFree names slug slug
  | numbered {k : Nat} (used : slug ∈ names) (two : 2 ≤ k) (free : numberedSlug slug k ∉ names)
      (least : ∀ j, 2 ≤ j → j < k → numberedSlug slug j ∈ names) :
      FirstFree names slug (numberedSlug slug k)

theorem FirstFree.congr {names names' : List String} {slug name : String}
    (same : ∀ name, name ∈ names ↔ name ∈ names') (h : FirstFree names slug name) :
    FirstFree names' slug name := by
  cases h with
  | plain free => exact .plain fun hm => free ((same _).mpr hm)
  | numbered used two free least =>
    exact .numbered ((same _).mp used) two (fun hm => free ((same _).mpr hm))
      fun j above below => (same _).mp (least j above below)

namespace Scopes

/-! ## The bounded search -/

theorem seekNumber_le (used : List String) (slug : String) (tries n : Nat) :
    seekNumber used slug tries n ≤ n + tries := by
  induction tries generalizing n with
  | zero => exact Nat.le_refl n
  | succ tries ih =>
    rw [seekNumber]
    have := ih (n + 1)
    split <;> omega

theorem search_of_fresh {used : List String} {slug : String} {tries n : Nat}
    (fresh : numberedSlug slug (seekNumber used slug tries n) ∉ used) :
    Search used slug n (seekNumber used slug tries n) := by
  induction tries generalizing n with
  | zero => exact .stop fresh
  | succ tries ih =>
    rw [seekNumber] at fresh ⊢
    split
    · rename_i taken
      rw [if_pos taken] at fresh
      exact .next (List.contains_iff_mem.mp taken) (ih fresh)
    · rename_i free
      exact .stop fun hm => free (List.contains_iff_mem.mpr hm)

/-- With as many tries as names are in use, the search ends by itself. -/
theorem search_seekNumber (used : List String) (slug : String) (n : Nat) :
    Search used slug n (seekNumber used slug used.length n) :=
  search_of_fresh (seekNumber_fresh used slug n)

/-- A search passes over no more numbers than names are in use. -/
theorem le_of_search {used : List String} {slug : String} {n found : Nat}
    (h : Search used slug n found) : found ≤ n + used.length := by
  rw [h.unique (search_seekNumber used slug n)]
  exact seekNumber_le used slug used.length n

/-! ## The remembered numbers -/

/-- The last number given out for a slug; none has been while the slug itself is free. -/
def lastNumber (scopes : Scopes) (slug : String) : Nat := (scopes.lastNumbers.lookup slug).getD 1

/-- All names of a slug from 2 up to the remembered number are in use. -/
structure Remembers (scopes : Scopes) : Prop where
  one_le : ∀ slug, 1 ≤ scopes.lastNumber slug
  taken : ∀ slug n, 2 ≤ n → n ≤ scopes.lastNumber slug → numberedSlug slug n ∈ scopes.used

theorem remembers_empty : Remembers {} where
  one_le := fun slug => Nat.le_refl 1
  taken := fun slug n two le => by
    have : n ≤ 1 := le
    omega

/-- Behind the remembered number a search ends where one from 2 on does. -/
theorem Remembers.search_two {scopes : Scopes} (h : scopes.Remembers) {slug : String} {found : Nat}
    (search : Search scopes.used slug (scopes.lastNumber slug + 1) found) :
    Search scopes.used slug 2 found := by
  have one := h.one_le slug
  exact search.of_taken (by omega) fun n two below => h.taken slug n two (by omega)

/-- What is given out for a title: its slug, or the name where the search ends. -/
theorem allot_cases (scopes : Scopes) (title : String) :
    (slugify title ∉ scopes.used ∧
      scopes.allot title = (slugify title, ⟨slugify title :: scopes.used, scopes.lastNumbers⟩)) ∨
    ∃ found, slugify title ∈ scopes.used ∧
      Search scopes.used (slugify title) (scopes.lastNumber (slugify title) + 1) found ∧
      scopes.allot title = (numberedSlug (slugify title) found,
        ⟨numberedSlug (slugify title) found :: scopes.used,
          scopes.lastNumbers.put (slugify title) found⟩) := by
  by_cases used : scopes.used.contains (slugify title) = true
  · right
    refine ⟨_, List.contains_iff_mem.mp used, search_seekNumber scopes.used _ _, ?_⟩
    rw [allot, if_pos used]
    rfl
  · left
    refine ⟨fun hm => used (List.contains_iff_mem.mpr hm), ?_⟩
    rw [allot, if_neg used]

theorem Remembers.firstFree_allot {scopes : Scopes} (h : scopes.Remembers) (title : String) :
    FirstFree scopes.used (slugify title) (scopes.allot title).1 := by
  rcases scopes.allot_cases title with ⟨free, given⟩ | ⟨found, used, search, given⟩
  · rw [given]
    exact .plain free
  · rw [given]
    have two := h.search_two search
    exact .numbered used two.taken.1 two.free two.taken.2

theorem Remembers.allot {scopes : Scopes} (h : scopes.Remembers) (title : String) :
    (scopes.allot title).2.Remembers := by
  rcases scopes.allot_cases title with ⟨-, given⟩ | ⟨found, -, search, given⟩
  · rw [given]
    exact ⟨h.one_le, fun slug n two le => List.mem_cons_of_mem _ (h.taken slug n two le)⟩
  · rw [given]
    obtain ⟨le, passed⟩ := search.taken
    have last : ∀ slug, lastNumber ⟨numberedSlug (slugify title) found :: scopes.used,
        scopes.lastNumbers.put (slugify title) found⟩ slug =
          if slug = slugify title then found else scopes.lastNumber slug := by
      intro slug
      by_cases same : slug = slugify title
      · rw [if_pos same, lastNumber, same, Entries.lookup_put]
        rfl
      · rw [if_neg same, lastNumber, Entries.lookup_put_of_ne same]
        rfl
    constructor
    · intro slug
      rw [last]
      split
      · omega
      · exact h.one_le slug
    · intro slug n two upTo
      rw [last] at upTo
      split at upTo
      · rename_i same
        rw [same]
        rcases Nat.lt_or_ge (scopes.lastNumber (slugify title)) n with behind | known
        · rcases Nat.eq_or_lt_of_le upTo with rfl | below
          · exact List.mem_cons_self
          · exact List.mem_cons_of_mem _ (passed n behind below)
        · exact List.mem_cons_of_mem _ (h.taken _ n two known)
      · exact List.mem_cons_of_mem _ (h.taken slug n two upTo)

/-! ## Many titles -/

def allotAll (scopes : Scopes) : List String → List String × Scopes
  | [] => ([], scopes)
  | title :: rest =>
    let (name, scopes) := scopes.allot title
    let (names, scopes) := scopes.allotAll rest
    (name :: names, scopes)

/-- The slides of a document get the scopes of their titles. -/
theorem map_scope_allotScopes (scopes : Scopes) (raws : List RawSlide) :
    (allotScopes scopes raws).map ScopedSlide.scope =
      (scopes.allotAll (raws.map RawSlide.title)).1 := by
  induction raws generalizing scopes with
  | nil => rfl
  | cons raw rest ih =>
    rw [allotScopes, List.map_cons, ih]
    rfl

theorem allotAll_append (scopes : Scopes) (before after : List String) :
    (scopes.allotAll (before ++ after)).1 =
      (scopes.allotAll before).1 ++ ((scopes.allotAll before).2.allotAll after).1 := by
  induction before generalizing scopes with
  | nil => rfl
  | cons title before ih =>
    show _ :: (allotAll _ (before ++ after)).1 = _
    rw [ih]
    rfl

/-- The names in use are those that have been given out. -/
theorem used_allotAll (scopes : Scopes) (titles : List String) :
    (scopes.allotAll titles).2.used = (scopes.allotAll titles).1.reverse ++ scopes.used := by
  induction titles generalizing scopes with
  | nil => rfl
  | cons title rest ih =>
    rw [allotAll]
    dsimp only
    rw [ih, (scopes.allot_fresh title).2, List.reverse_cons, List.append_assoc]
    rfl

theorem Remembers.allotAll {scopes : Scopes} (h : scopes.Remembers) (titles : List String) :
    (scopes.allotAll titles).2.Remembers := by
  induction titles generalizing scopes with
  | nil => exact h
  | cons title rest ih => exact ih (h.allot title)

/-- The names that are given out, and those in use before, are pairwise different. -/
theorem nodup_allotAll {scopes : Scopes} (distinct : scopes.used.Nodup) (titles : List String) :
    ((scopes.allotAll titles).1.reverse ++ scopes.used).Nodup := by
  rw [← used_allotAll]
  induction titles generalizing scopes with
  | nil => exact distinct
  | cons title rest ih =>
    obtain ⟨fresh, used⟩ := scopes.allot_fresh title
    have more : (scopes.allot title).2.used.Nodup := by
      rw [used]
      exact List.nodup_cons.mpr ⟨fresh, distinct⟩
    exact ih more

/-- At first no name is in use. -/
theorem used_allotAll_empty (titles : List String) :
    (allotAll {} titles).2.used = (allotAll {} titles).1.reverse := by
  rw [used_allotAll]
  exact List.append_nil _

theorem nodup_allotAll_empty (titles : List String) : (allotAll {} titles).1.Nodup := by
  have none : ({} : Scopes).used.Nodup := List.nodup_nil
  have distinct := nodup_allotAll none titles
  rw [← used_allotAll, used_allotAll_empty, List.nodup_reverse] at distinct
  exact distinct

end Scopes

open Scopes

/-- Whatever titles come first, the next one gets its slug or, where an earlier title got that, the
slug with the first free number from 2 on. The loop that goes on behind the remembered number ends,
and where the search from 2 on ends. No two titles get the same. -/
theorem scope_is_first_free (before after : List String) (title : String) :
    ∃ name later found,
      (allotAll {} (before ++ title :: after)).1 = (allotAll {} before).1 ++ name :: later ∧
        FirstFree (allotAll {} before).1 (slugify title) name ∧
        (slugify title ∈ (allotAll {} before).1 → name = numberedSlug (slugify title) found) ∧
        Search (allotAll {} before).1 (slugify title)
          ((allotAll {} before).2.lastNumber (slugify title) + 1) found ∧
        Search (allotAll {} before).1 (slugify title) 2 found ∧
        found ≤ (allotAll {} before).1.length + 2 ∧
        ((allotAll {} before).1 ++ name :: later).Nodup := by
  let names := (allotAll {} before).1
  let scopes := (allotAll {} before).2
  have used : scopes.used = names.reverse := used_allotAll_empty before
  have same : ∀ name, name ∈ scopes.used ↔ name ∈ names := by
    intro name
    rw [used, List.mem_reverse]
  have remembers : scopes.Remembers := remembers_empty.allotAll before
  have search := search_seekNumber scopes.used (slugify title)
    (scopes.lastNumber (slugify title) + 1)
  have two := remembers.search_two search
  have whole : (allotAll {} (before ++ title :: after)).1 =
      names ++ (scopes.allot title).1 :: ((scopes.allot title).2.allotAll after).1 :=
    allotAll_append {} before (title :: after)
  refine ⟨_, _, _, whole, (remembers.firstFree_allot title).congr same, ?_, search.congr same,
    two.congr same, ?_, ?_⟩
  · intro taken
    rcases scopes.allot_cases title with ⟨free, -⟩ | ⟨found, -, other, given⟩
    · exact absurd ((same _).mpr taken) free
    · rw [given, other.unique search]
  · have length : scopes.used.length = names.length := by rw [used, List.length_reverse]
    have := le_of_search two
    show _ ≤ names.length + 2
    omega
  · rw [← whole]
    exact nodup_allotAll_empty _

-- A title that looks like a numbered slug takes the number from the one that repeats.
example : (allotAll {} ["Part one 2", "Part one", "Part one"]).1 =
    ["part-one-2", "part-one", "part-one-3"] := by decide +kernel

end Questionnaire
