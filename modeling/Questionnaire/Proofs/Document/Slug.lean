import Questionnaire.Document.Slug
import Questionnaire.Proofs.Text.Alphanumeric
import Questionnaire.Proofs.Text.Runs

/-! # Slugs of titles

A slug is the runs of alphanumeric characters of its title, each in lower case, with a dash between
each two. Lower case takes alphanumeric characters to such characters and leaves these as they are,
with one exception: the dotted capital I leaves a combining dot behind, which is none. So the slug of
a title without that letter is well formed and its own slug, and that of a title with it is neither.
-/

namespace Questionnaire
open Text

def alphanumericRuns (text : List Char) : List (List Char) :=
  (text.splitOnP fun c => !isAlphanumeric c).filter fun run => !run.isEmpty

def slugRuns (text : List Char) : List (List Char) :=
  (alphanumericRuns text).map fun run => run.flatMap lowerChar

/-- Runs of alphanumeric characters with one dash between each two of them and none at either end. -/
structure IsSlugOf (runs : List (List Char)) (text : List Char) : Prop where
  ne_nil : runs ≠ []
  run_ne_nil : ∀ run ∈ runs, run ≠ []
  alphanumeric : ∀ run ∈ runs, ∀ c ∈ run, isAlphanumeric c = true
  text_eq : text = ['-'].intercalate runs

/-! ## Runs -/

theorem alphanumericRuns_nil : alphanumericRuns [] = [] := by
  simp [alphanumericRuns, List.splitOnP_nil]

/-- A character that is not alphanumeric parts the runs before it from those behind it. -/
theorem alphanumericRuns_append_cons {c : Char} (other : isAlphanumeric c = false)
    (before after : List Char) :
    alphanumericRuns (before ++ c :: after) = alphanumericRuns before ++ alphanumericRuns after := by
  unfold alphanumericRuns
  rw [List.splitOnP_append_cons before after (by simp [other]), List.filter_append]

theorem alphanumericRuns_cons {c : Char} (other : isAlphanumeric c = false) (rest : List Char) :
    alphanumericRuns (c :: rest) = alphanumericRuns rest := by
  have parted := alphanumericRuns_append_cons other [] rest
  rwa [alphanumericRuns_nil] at parted

theorem alphanumericRuns_run {run : List Char} (occupied : run ≠ [])
    (inside : ∀ c ∈ run, isAlphanumeric c = true) : alphanumericRuns run = [run] := by
  unfold alphanumericRuns
  rw [List.splitOnP_eq_singleton fun c hc => by simp [inside c hc]]
  simp [occupied]

/-- A run ends where no alphanumeric character follows. -/
theorem alphanumericRuns_append {run rest : List Char} (occupied : run ≠ [])
    (inside : ∀ c ∈ run, isAlphanumeric c = true)
    (stop : ∀ c ∈ rest.head?, isAlphanumeric c = false) :
    alphanumericRuns (run ++ rest) = run :: alphanumericRuns rest := by
  cases rest with
  | nil => rw [List.append_nil, alphanumericRuns_run occupied inside, alphanumericRuns_nil]
  | cons c rest =>
    rw [alphanumericRuns_append_cons (stop c rfl), alphanumericRuns_run occupied inside,
      alphanumericRuns_cons (stop c rfl), List.singleton_append]

theorem alphanumericRuns_cons_pos {c : Char} (h : isAlphanumeric c = true) (rest : List Char) :
    alphanumericRuns (c :: rest) = (c :: rest.takeWhile isAlphanumeric) ::
      alphanumericRuns (rest.dropWhile isAlphanumeric) := by
  obtain ⟨run, back, rfl, inside, stop⟩ := exists_run isAlphanumeric rest
  rw [takeWhile_run inside stop, dropWhile_run inside stop, ← List.cons_append]
  exact alphanumericRuns_append (by simp) (List.forall_mem_cons.mpr ⟨h, inside⟩) stop

/-- The runs together are the alphanumeric characters of the text. -/
theorem flatten_alphanumericRuns (text : List Char) :
    (alphanumericRuns text).flatten = text.filter isAlphanumeric := by
  rw [alphanumericRuns, List.flatten_filter_not_isEmpty]
  induction text with
  | nil => rfl
  | cons c rest ih =>
    rw [List.splitOnP_cons_eq_if_modifyHead]
    cases h : isAlphanumeric c with
    | true =>
      obtain ⟨piece, more, pieces⟩ := List.exists_cons_of_ne_nil
        (List.splitOnP_ne_nil (fun c => !isAlphanumeric c) rest)
      rw [pieces] at ih ⊢
      simpa [h] using ih
    | false => simpa [h] using ih

theorem mem_alphanumericRuns {text run : List Char} (hm : run ∈ alphanumericRuns text) :
    run ≠ [] ∧ ∀ c ∈ run, c ∈ text ∧ isAlphanumeric c = true := by
  refine ⟨by simpa using (List.mem_filter.mp hm).2, fun c hc => ?_⟩
  have together : c ∈ (alphanumericRuns text).flatten := List.mem_flatten.mpr ⟨run, hm, hc⟩
  rwa [flatten_alphanumericRuns, List.mem_filter] at together

/-- The runs of runs with dashes between them are these runs. -/
theorem alphanumericRuns_intercalate {runs : List (List Char)} (occupied : ∀ run ∈ runs, run ≠ [])
    (inside : ∀ run ∈ runs, ∀ c ∈ run, isAlphanumeric c = true) :
    alphanumericRuns (['-'].intercalate runs) = runs := by
  induction runs with
  | nil => exact alphanumericRuns_nil
  | cons run rest ih =>
    obtain ⟨here, others⟩ := List.forall_mem_cons.mp occupied
    obtain ⟨inHere, inOthers⟩ := List.forall_mem_cons.mp inside
    by_cases last : rest = []
    · rw [last, List.intercalate_singleton, alphanumericRuns_run here inHere]
    · rw [List.intercalate_cons_of_ne_nil last, List.append_assoc, List.singleton_append,
        alphanumericRuns_append_cons (by decide +kernel), alphanumericRuns_run here inHere,
        ih others inOthers, List.singleton_append]

/-! ## Slugs are made of runs -/

theorem intercalate_cons {α : Type} (gap first : List α) (rest : List (List α)) :
    gap.intercalate (first :: rest) = first ++ rest.flatMap (gap ++ ·) := by
  induction rest generalizing first with
  | nil => simp
  | cons next rest ih =>
    rw [List.intercalate_cons_of_ne_nil (by simp), ih, List.flatMap_cons]
    simp

/-- Behind characters left out, each run comes with a dash before it. Right behind a character, its
run goes on first. -/
theorem slugTail_eq (text : List Char) :
    slugTail true text = (slugRuns text).flatMap (['-'] ++ ·) ∧
      slugTail false text = (text.takeWhile isAlphanumeric).flatMap lowerChar ++
        (slugRuns (text.dropWhile isAlphanumeric)).flatMap (['-'] ++ ·) := by
  induction text with
  | nil => simp [slugTail, slugRuns, alphanumericRuns_nil]
  | cons c rest ih =>
    obtain ⟨behindGap, goesOn⟩ := ih
    rw [slugTail, slugTail]
    cases h : isAlphanumeric c with
    | true =>
      simp [goesOn, slugRuns, alphanumericRuns_cons_pos h, h]
    | false =>
      simp [behindGap, slugRuns, alphanumericRuns_cons h, h]

theorem slugChars_eq (text : List Char) : slugChars text = ['-'].intercalate (slugRuns text) := by
  induction text with
  | nil => simp [slugChars, slugRuns, alphanumericRuns_nil]
  | cons c rest ih =>
    rw [slugChars]
    cases h : isAlphanumeric c with
    | true =>
      rw [slugRuns, alphanumericRuns_cons_pos h, List.map_cons, intercalate_cons, if_pos rfl,
        (slugTail_eq rest).2, slugRuns]
      simp
    | false =>
      rw [slugRuns, alphanumericRuns_cons h, if_neg (by simp)]
      exact ih

theorem mem_intercalate_iff {c : Char} (other : c ≠ '-') (runs : List (List Char)) :
    c ∈ ['-'].intercalate runs ↔ ∃ run ∈ runs, c ∈ run := by
  cases runs with
  | nil => simp
  | cons run rest => simp [intercalate_cons, other]

theorem lowerChar_ne_nil (c : Char) : lowerChar c ≠ [] := by
  unfold lowerChar
  split
  · simp
  · split <;> simp

/-- A title without alphanumeric characters has the slug that stands in, any other one has its runs. -/
theorem toList_slugify (title : String) :
    (slugify title).toList = if alphanumericRuns title.toList = [] then fallbackSlug.toList
      else ['-'].intercalate (slugRuns title.toList) := by
  unfold slugify
  rw [slugChars_eq]
  cases runs : alphanumericRuns title.toList with
  | nil => simp [slugRuns, runs]
  | cons run rest =>
    have inside : run ∈ alphanumericRuns title.toList := by rw [runs]; exact List.mem_cons_self
    obtain ⟨c, more, rfl⟩ := List.exists_cons_of_ne_nil (mem_alphanumericRuns inside).1
    obtain ⟨first, lowered, hc⟩ := List.exists_cons_of_ne_nil (lowerChar_ne_nil c)
    simp [slugRuns, runs, intercalate_cons, hc]

theorem slugify_ne_empty (title : String) : slugify title ≠ "" := by
  unfold slugify
  split
  · decide
  · rename_i occupied
    simpa using occupied

/-! ## Slugs of slugs -/

theorem flatMap_lowerChar_eq_self {run : List Char} (settled : ∀ c ∈ run, lowerChar c = [c]) :
    run.flatMap lowerChar = run := by
  rw [List.flatMap_congr settled, List.flatMap_singleton']

/-- A title that consists of such runs, in lower case, is its own slug. -/
theorem slugify_of_isSlugOf {runs : List (List Char)} {title : String}
    (h : IsSlugOf runs title.toList)
    (settled : ∀ run ∈ runs, ∀ c ∈ run, lowerChar c = [c]) : slugify title = title := by
  have own : alphanumericRuns title.toList = runs := by
    rw [h.text_eq, alphanumericRuns_intercalate h.run_ne_nil h.alphanumeric]
  have lowered : slugRuns title.toList = runs := by
    have each : ∀ run ∈ runs, run.flatMap lowerChar = id run :=
      fun run hm => flatMap_lowerChar_eq_self (settled run hm)
    rw [slugRuns, own, List.map_congr_left each, List.map_id]
  rw [← String.toList_inj, toList_slugify, own, if_neg h.ne_nil, lowered, h.text_eq]

/-- The lower case of alphanumeric characters without a dotted capital I. -/
theorem settled_of_lowered {run : List Char} (inside : ∀ c ∈ run, isAlphanumeric c = true)
    (dotless : '\u0130' ∉ run) :
    ∀ d ∈ run.flatMap lowerChar, isAlphanumeric d = true ∧ lowerChar d = [d] := by
  intro d hd
  obtain ⟨c, hc, lowered⟩ := List.mem_flatMap.mp hd
  have other : c ≠ '\u0130' := fun dotted => dotless (dotted ▸ hc)
  obtain ⟨low, single, settles⟩ := lowerChar_of_isAlphanumeric (inside c hc) other
  rw [single, List.mem_singleton] at lowered
  rwa [lowered]

theorem exists_isSlugOf_slugify {title : String} (dotless : '\u0130' ∉ title.toList) :
    ∃ runs, IsSlugOf runs (slugify title).toList ∧
      ∀ run ∈ runs, ∀ c ∈ run, lowerChar c = [c] := by
  rw [toList_slugify]
  split
  · have each := List.all_eq_true.mp (show (fallbackSlug.toList.all fun c =>
      isAlphanumeric c && decide (lowerChar c = [c])) = true by decide +kernel)
    have settled : ∀ run ∈ [fallbackSlug.toList], ∀ c ∈ run,
        isAlphanumeric c = true ∧ lowerChar c = [c] := by
      intro run hm c hc
      rw [List.mem_singleton.mp hm] at hc
      simpa using each c hc
    exact ⟨[fallbackSlug.toList],
      ⟨by simp, by decide, fun run hm c hc => (settled run hm c hc).1, by simp⟩,
      fun run hm c hc => (settled run hm c hc).2⟩
  · rename_i occupied
    have settled : ∀ run ∈ slugRuns title.toList, ∀ d ∈ run,
        isAlphanumeric d = true ∧ lowerChar d = [d] := by
      intro run hm
      obtain ⟨original, ho, rfl⟩ := List.mem_map.mp hm
      have inside := (mem_alphanumericRuns ho).2
      exact settled_of_lowered (fun c hc => (inside c hc).2) fun hd => dotless (inside _ hd).1
    refine ⟨slugRuns title.toList, ⟨?_, ?_, fun run hm d hd => (settled run hm d hd).1, rfl⟩,
      fun run hm d hd => (settled run hm d hd).2⟩
    · simpa [slugRuns] using occupied
    · intro run hm
      obtain ⟨original, ho, rfl⟩ := List.mem_map.mp hm
      obtain ⟨c, hc⟩ := List.exists_mem_of_ne_nil _ (mem_alphanumericRuns ho).1
      intro none
      exact lowerChar_ne_nil c (List.flatMap_eq_nil_iff.mp none c hc)

/-! ## The dotted capital I -/

/-- The combining dot of the slug comes from a dotted capital I. -/
theorem dot_mem_slugify {title : String} (dotted : '\u0130' ∈ title.toList) :
    '\u0307' ∈ (slugify title).toList := by
  have kept : '\u0130' ∈ (alphanumericRuns title.toList).flatten := by
    rw [flatten_alphanumericRuns]
    exact List.mem_filter.mpr ⟨dotted, by decide +kernel⟩
  obtain ⟨run, hm, hc⟩ := List.mem_flatten.mp kept
  rw [toList_slugify, if_neg (List.ne_nil_of_mem hm), mem_intercalate_iff (by decide)]
  exact ⟨_, List.mem_map.mpr ⟨run, hm, rfl⟩, List.mem_flatMap.mpr ⟨_, hc, by decide⟩⟩

theorem dotted_not_mem_lowerChar (c : Char) : '\u0130' ∉ lowerChar c := by
  intro hm
  have none : CaseRun.sources caseRuns '\u0130'.toNat = [] := by decide +kernel
  have origin := mem_lowerChar hm (by decide)
  rw [none] at origin
  have itself : c = '\u0130' := by simpa using origin
  rw [itself] at hm
  revert hm
  decide

theorem dotted_not_mem_slugify (title : String) : '\u0130' ∉ (slugify title).toList := by
  rw [toList_slugify]
  split
  · decide
  · intro hm
    obtain ⟨run, hr, hc⟩ := (mem_intercalate_iff (by decide) _).mp hm
    obtain ⟨original, -, rfl⟩ := List.mem_map.mp hr
    obtain ⟨c, -, lowered⟩ := List.mem_flatMap.mp hc
    exact dotted_not_mem_lowerChar c lowered

/-- A slug of runs holds no combining dot. -/
theorem IsSlugOf.dot_not_mem {runs : List (List Char)} {text : List Char} (h : IsSlugOf runs text) :
    '\u0307' ∉ text := by
  rw [h.text_eq]
  intro hm
  obtain ⟨run, hr, hc⟩ := (mem_intercalate_iff (by decide) _).mp hm
  have letter := h.alphanumeric run hr _ hc
  revert letter
  decide +kernel

/-- **Slugs are well formed and stable but for the dotted capital I.** A slug is never empty: it is
the runs of alphanumeric characters of the title, each in lower case, with a dash between each two,
or what stands in where there are none. It is made of alphanumeric characters and single dashes
between them just where the title has no dotted capital I, and just there it is its own slug. -/
theorem slug_stable_iff (title : String) :
    slugify title ≠ "" ∧
    (slugify title).toList = (if alphanumericRuns title.toList = [] then fallbackSlug.toList
      else ['-'].intercalate (slugRuns title.toList)) ∧
    ((∃ runs, IsSlugOf runs (slugify title).toList) ↔ '\u0130' ∉ title.toList) ∧
    (slugify (slugify title) = slugify title ↔ '\u0130' ∉ title.toList) := by
  refine ⟨slugify_ne_empty title, toList_slugify title, ⟨?_, ?_⟩, ⟨?_, ?_⟩⟩
  · rintro ⟨runs, isSlug⟩ dotted
    exact isSlug.dot_not_mem (dot_mem_slugify dotted)
  · intro dotless
    obtain ⟨runs, isSlug, -⟩ := exists_isSlugOf_slugify dotless
    exact ⟨runs, isSlug⟩
  · intro stable dotted
    -- the slug of a slug has no combining dot, since no slug has a dotted capital I
    obtain ⟨runs, isSlug, -⟩ := exists_isSlugOf_slugify (dotted_not_mem_slugify title)
    rw [stable] at isSlug
    exact isSlug.dot_not_mem (dot_mem_slugify dotted)
  · intro dotless
    obtain ⟨runs, isSlug, settled⟩ := exists_isSlugOf_slugify dotless
    exact slugify_of_isSlugOf isSlug settled

/-- **The dotted capital I leaves a mark.** Its slug ends in a combining dot, which is no alphanumeric
character, and the slug of this slug is without it. -/
theorem dotted_capital_leaves_mark :
    slugify "\u0130" = "i\u0307" ∧ (¬ ∃ runs, IsSlugOf runs (slugify "\u0130").toList) ∧
      slugify (slugify "\u0130") ≠ slugify "\u0130" := by
  have slug : slugify "\u0130" = "i\u0307" := by decide +kernel
  refine ⟨slug, ?_, by decide +kernel⟩
  rintro ⟨runs, isSlug⟩
  rw [slug] at isSlug
  exact isSlug.dot_not_mem (by decide)

end Questionnaire
