import Questionnaire.Markdown.Block
import Questionnaire.Proofs.Document.Joining
import Questionnaire.Proofs.Text.Phrase

/-! # The title of a slide and the heading on the page

A slide takes its title from the heading line, without the hashes at its end. Markdown takes hashes
at the end for a part of the heading unless a space or a tab stands before them. So title and heading
are the same where the text of the line ends in no hash, or where the hashes at its end stand apart;
elsewhere the title has lost hashes that the page shows.
-/

namespace Questionnaire
open Text

def headingLine (level : Nat) (text : List Char) : List Char :=
  List.replicate level '#' ++ ' ' :: text

def withoutHashes (text : List Char) : List Char := dropEndWhile (· = '#') text

/-- The heading that a text makes: hashes at its end close it where a space or a tab stands before
them, and are left out with all white space before them. -/
def shownHeading (text : List Char) : List Char :=
  if (withoutHashes text).getLast?.any Markdown.isIndent then trimEnd (withoutHashes text) else text

/-! ## Hashes at the end of a text -/

theorem isBlank_of_isGap {c : Char} (h : Markdown.isGap c = true) : isBlank c = true := by
  simp only [Markdown.isGap, Markdown.isIndent, Bool.or_eq_true, decide_eq_true_eq] at h
  rcases h with ((rfl | rfl) | rfl) | rfl <;> decide

section

variable {text : List Char}

theorem withoutHashes_prefix (text : List Char) :
    ∃ hashes, text = withoutHashes text ++ hashes ∧ ∀ c ∈ hashes, c = '#' := by
  obtain ⟨hashes, whole, inside, -⟩ := exists_dropEndWhile (· = '#') text
  exact ⟨hashes, whole, fun c hc => of_decide_eq_true (inside c hc)⟩

variable (phrase : IsPhrase text) (other : ∃ c ∈ text, c ≠ '#')

include other

theorem withoutHashes_ne_nil : withoutHashes text ≠ [] := by
  intro none
  obtain ⟨hashes, whole, inside⟩ := withoutHashes_prefix text
  rw [none, List.nil_append] at whole
  obtain ⟨c, hc, ne⟩ := other
  rw [whole] at hc
  exact ne (inside c hc)

include phrase

/-- Only the end of what is left is trimmed. -/
theorem trim_withoutHashes : trim (withoutHashes text) = trimEnd (withoutHashes text) := by
  obtain ⟨hashes, whole, -⟩ := withoutHashes_prefix text
  obtain ⟨c, rest, first⟩ := List.exists_cons_of_ne_nil (withoutHashes_ne_nil other)
  have occupied : isBlank c = false := phrase.head_not_blank c (by rw [whole, first]; rfl)
  have start : trimStart (c :: rest) = c :: rest := List.dropWhile_cons_of_neg (by simp [occupied])
  rw [first, trim, start]

/-- What is left, trimmed, is the heading just where there are no hashes at the end or a space or a
tab stands before them. -/
theorem trim_withoutHashes_eq_shownHeading_iff :
    trim (withoutHashes text) = shownHeading text ↔
      withoutHashes text = text ∨ ∃ c ∈ (withoutHashes text).getLast?, c = ' ' ∨ c = '\t' := by
  have apart : (withoutHashes text).getLast?.any Markdown.isIndent = true ↔
      ∃ c ∈ (withoutHashes text).getLast?, c = ' ' ∨ c = '\t' := by
    cases (withoutHashes text).getLast? <;> simp [Markdown.isIndent]
  rw [← apart]
  cases h : (withoutHashes text).getLast?.any Markdown.isIndent with
  | true =>
    rw [shownHeading, if_pos h, trim_withoutHashes phrase other]
    simp
  | false =>
    rw [shownHeading, if_neg (by simp [h])]
    constructor
    · intro same
      obtain ⟨before, after, whole, -⟩ := exists_trim (withoutHashes text)
      obtain ⟨hashes, parts, -⟩ := withoutHashes_prefix text
      have long := congrArg List.length whole
      have long' := congrArg List.length parts
      rw [same] at long
      simp only [List.length_append] at long long'
      have none : hashes = [] := List.eq_nil_of_length_eq_zero (by omega)
      exact .inl (by rw [none, List.append_nil] at parts; exact parts.symm)
    · rintro (same | other)
      · rw [same, phrase.trim_eq]
      · cases other

/-- Markdown cuts off the same hashes. -/
theorem trim_cutClosingHashes : trim (Markdown.cutClosingHashes text) = shownHeading text := by
  have ending : dropEndWhile Markdown.isGap text = text := by
    refine dropEndWhile_eq_self fun c last => ?_
    by_contra gap
    have blank := isBlank_of_isGap (by simpa using gap)
    rw [phrase.getLast_not_blank c last] at blank
    cases blank
  obtain ⟨c, last⟩ := Option.ne_none_iff_exists'.mp
    (mt List.getLast?_eq_none_iff.mp (withoutHashes_ne_nil other))
  have last' : (dropEndWhile (· = '#') text).getLast? = some c := last
  simp only [Markdown.cutClosingHashes, ending, last', shownHeading, last, Option.any_some]
  split
  · obtain ⟨gaps, whole, inside, -⟩ := exists_dropEndWhile Markdown.isGap (withoutHashes text)
    have cut := trim_append_right (fun d hd => isBlank_of_isGap (inside d hd))
      (dropEndWhile Markdown.isGap (withoutHashes text))
    rw [← whole, trim_withoutHashes phrase other] at cut
    exact cut.symm
  · exact phrase.trim_eq

end

/-! ## The heading on the page -/

namespace Markdown

theorem sourceLines_of_free {text : List Char} (feed : '\n' ∉ text) (returns : '\r' ∉ text)
    (occupied : text ≠ []) : sourceLines text = [text] := by
  induction text with
  | nil => exact absurd rfl occupied
  | cons c rest ih =>
    obtain ⟨noFeed, feed⟩ := not_or.mp (mt List.mem_cons.mpr feed)
    obtain ⟨noReturn, returns⟩ := not_or.mp (mt List.mem_cons.mpr returns)
    rw [sourceLines.eq_3 c rest (by rintro _ rfl; exact absurd rfl noReturn)]
    rw [if_neg (by simp [Ne.symm noFeed, Ne.symm noReturn])]
    cases rest with
    | nil => rfl
    | cons d rest => rw [ih feed returns (by simp)]

theorem headingLevel?_headingLine {level : Nat} (low : 1 ≤ level) (high : level ≤ 6)
    (text : List Char) : headingLevel? (headingLine level text) = some level := by
  have run : (headingLine level text).takeWhile (· = '#') = List.replicate level '#' :=
    takeWhile_run (by simp) (by simp)
  have behind : (headingLine level text).drop level = ' ' :: text :=
    List.drop_left' (by simp)
  have bounds : ¬ (level = 0 ∨ 6 < level) := by omega
  simp [headingLevel?, run, behind, bounds, isIndent]

theorem readStart?_headingLine {level : Nat} (low : 1 ≤ level) (high : level ≤ 6)
    (text : List Char) :
    readStart? 1 false false (.start (headingLine level text)) =
      some (.heading level, ⟨level, ' ' :: text, false⟩) := by
  have behind : (headingLine level text).drop level = ' ' :: text :=
    List.drop_left' (by simp)
  have read := headingLevel?_headingLine low high text
  obtain ⟨n, rfl⟩ : ∃ n, level = n + 1 := ⟨level - 1, by omega⟩
  have first : headingLine (n + 1) text = '#' :: headingLine n text := rfl
  have start : skipIndent (headingLine (n + 1) text) = headingLine (n + 1) text := by
    rw [first]
    exact List.dropWhile_cons_of_neg (by decide)
  have column : indentColumns 0 (headingLine (n + 1) text) = 0 := by
    rw [first]
    rfl
  have quote : (headingLine (n + 1) text).head? ≠ some '>' := by
    simp [first]
  simp [readStart?, Cursor.isIndented, Cursor.indent, Cursor.start, Cursor.text, Cursor.atText,
    Cursor.skipChars, start, column, quote, read, behind]

/-- What a heading line makes of an empty document. -/
theorem readLine_headingLine {level : Nat} {text : List Char} (low : 1 ≤ level) (high : level ≤ 6)
    (phrase : IsPhrase text) :
    readLine [OpenKind.document.opened] (headingLine level text) =
      [(OpenKind.heading level).opened.addLine (cutClosingHashes text),
        OpenKind.document.opened] := by
  have started := readStart?_headingLine low high text
  have inText : skipIndent (' ' :: text) = text := by
    refine @dropWhile_run _ isIndent [' '] text (by simp [isIndent]) fun c hc => ?_
    by_contra indent
    have blank := isBlank_of_isGap (c := c) (by simp [isGap, by simpa using indent])
    rw [phrase.head_not_blank c hc] at blank
    cases blank
  have filled : Cursor.isBlank ⟨level, ' ' :: text, false⟩ = false := by
    simp [Cursor.isBlank, Cursor.text, inText, phrase.ne_nil]
  simp [readLine, follow, OpenBlock.follow?, Place.closesFence, openBlocks, started, Place.start?,
    Place.enter, openIn, closeAll, OpenBlock.add, OpenKind.mayHold, OpenKind.opened,
    OpenKind.isVerbatim, OpenKind.isParagraph, OpenKind.takesText, Place.noteBlank, filled,
    addText, OpenBlock.addLine, Cursor.text, inText]

/-- A heading line alone is one heading, with the text that is left when the hashes that close it are
cut off. -/
theorem readBlocks_headingLine {level : Nat} {text : List Char} (low : 1 ≤ level) (high : level ≤ 6)
    (phrase : IsPhrase text) (returns : '\r' ∉ text) (nulls : '\u0000' ∉ text) :
    readBlocks (headingLine level text) = [.heading level (cutClosingHashes text ++ ['\n'])] := by
  have shown : (headingLine level text).map (fun c => if c = '\u0000' then '\uFFFD' else c) =
      headingLine level text := by
    refine (List.map_congr_left fun c hc => if_neg ?_).trans (List.map_id _)
    rintro rfl
    simp [headingLine, nulls] at hc
  obtain ⟨n, rfl⟩ : ∃ n, level = n + 1 := ⟨level - 1, by omega⟩
  have first : headingLine (n + 1) text = '#' :: headingLine n text := rfl
  have alone : sourceLines (headingLine (n + 1) text) = [headingLine (n + 1) text] :=
    sourceLines_of_free (by simp [headingLine, phrase.feed_not_mem]) (by simp [headingLine, returns])
      (by simp [first])
  calc readBlocks (headingLine (n + 1) text)
      = (closeAll (readLine [OpenKind.document.opened]
          (headingLine (n + 1) text)).reverse).flatMap (·.blocks) := by
        rw [readBlocks, shown]
        rw [first] at alone ⊢
        simp [alone]
    _ = [.heading (n + 1) (cutClosingHashes text ++ ['\n'])] := by
        rw [readLine_headingLine low high phrase]
        simp [closeAll, OpenBlock.add, OpenBlock.close, OpenBlock.addLine, OpenKind.opened,
          joinEnded]

end Markdown

/-! ## The title of the slide -/

theorem headingTitle?_headingLine {level : Nat} {text : List Char} (low : 1 ≤ level)
    (high : level ≤ 6) (phrase : IsPhrase text) :
    headingTitle? (headingLine level text) = some (trim (withoutHashes text)) := by
  have run : (headingLine level text).takeWhile (· = '#') = List.replicate level '#' :=
    takeWhile_run (by simp) (by simp)
  have behind : (headingLine level text).dropWhile (· = '#') = ' ' :: text :=
    dropWhile_run (by simp) (by simp)
  have bounds : ¬ (level = 0 ∨ 6 < level) := by omega
  simp [headingTitle?, run, behind, bounds, trim_space_cons, phrase.trim_eq, withoutHashes]

/-- A heading outside fences starts a slide with its title, behind the slides with the passages above
it. -/
theorem outline_at_heading {source : String} {above below : List (List Char)}
    {line title : List Char} (whole : lines source.toList = above ++ line :: below)
    (outside : Even (above.countP isFence)) (read : headingTitle? line = some title)
    (documentTitle : String) :
    ∃ before, before.flatMap RawSlide.passages = Passage.gather false [] above ∧
      outline source documentTitle = before ++
        ⟨String.ofList title,
          .heading title line :: (gatherSlides (Passage.gather false [] below)).1⟩ ::
        (gatherSlides (Passage.gather false [] below)).2 := by
  have stop : ∀ next ∈ (line :: below).head?, isProse next = false := by
    rintro next ⟨⟩
    exact isProse_of_headingTitle? read
  have parted : Passage.ofSource source = Passage.gather false [] above ++
      .heading title line :: Passage.gather false [] below := by
    rw [Passage.ofSource, whole, Passage.gather_append [] stop (by simpa using outside),
      Passage.gather_heading read]
    rfl
  have passages := passages_gatherSlides (Passage.gather false [] above)
  rw [outline, parted, gatherSlides_append _ rfl]
  generalize gatherSlides (Passage.gather false [] above) = upper at passages ⊢
  obtain ⟨lead, slides⟩ := upper
  cases lead with
  | nil => exact ⟨slides, passages, by simp [gatherSlides]⟩
  | cons passage lead =>
    exact ⟨⟨documentTitle, passage :: lead⟩ :: slides, passages, by simp [gatherSlides]⟩

/-- **Titles are the headings on the page but for hashes at their end.** A heading line outside fences
starts a slide behind those with the passages above it. The title of the slide is the heading just
where the text of the line does not end in hashes, or these have a space or a tab before them. That
is the heading that Markdown makes of the line, up to white space at its end. -/
theorem title_is_shown_iff {source : String} {above below : List (List Char)} {level : Nat}
    {text : List Char} (low : 1 ≤ level) (high : level ≤ 6) (phrase : IsPhrase text)
    (other : ∃ c ∈ text, c ≠ '#')
    (whole : lines source.toList = above ++ headingLine level text :: below)
    (outside : Even (above.countP isFence)) (documentTitle : String) :
    (∃ before title, before.flatMap RawSlide.passages = Passage.gather false [] above ∧
      outline source documentTitle = before ++
        ⟨String.ofList title, .heading title (headingLine level text) ::
          (gatherSlides (Passage.gather false [] below)).1⟩ ::
        (gatherSlides (Passage.gather false [] below)).2 ∧
      title = trim (withoutHashes text) ∧
      (title = shownHeading text ↔
        withoutHashes text = text ∨ ∃ c ∈ (withoutHashes text).getLast?, c = ' ' ∨ c = '\t')) ∧
    ('\r' ∉ text → '\u0000' ∉ text →
      ∃ shown, Markdown.readBlocks (headingLine level text) = [.heading level (shown ++ ['\n'])] ∧
        trim shown = shownHeading text) := by
  constructor
  · obtain ⟨before, passages, slides⟩ := outline_at_heading whole outside
      (headingTitle?_headingLine low high phrase) documentTitle
    exact ⟨before, _, passages, slides, rfl, trim_withoutHashes_eq_shownHeading_iff phrase other⟩
  · intro returns nulls
    exact ⟨_, Markdown.readBlocks_headingLine low high phrase returns nulls,
      trim_cutClosingHashes phrase other⟩

/-- A heading with hashes at both ends, below a fence with another one in it. -/
theorem title_is_shown_iff_both_ends :
    ∃ before title passages, outline "~~~\n# x\n~~~\n## Two ##\nq = ___" "Quiz" =
        before ++ [⟨String.ofList title, .heading title "## Two ##".toList :: passages⟩] ∧
      title = shownHeading "Two ##".toList ∧ shownHeading "Two ##".toList = "Two".toList := by
  obtain ⟨before, title, -, slides, -, shown⟩ := (@title_is_shown_iff
    "~~~\n# x\n~~~\n## Two ##\nq = ___" ["~~~".toList, "# x".toList, "~~~".toList]
    ["q = ___".toList] 2 "Two ##".toList (by decide) (by decide) (by decide)
    ⟨'T', by decide, by decide⟩ (by decide +kernel) (by decide +kernel) "Quiz").1
  exact ⟨before, title, _, slides, shown.mpr (.inr ⟨' ', by decide, .inl rfl⟩), by decide⟩

/-- **A hash that belongs to the heading is lost.** The page shows it, and the title is without it. -/
theorem title_loses_hash :
    (outline "# C#" "Quiz").map RawSlide.title = ["C"] ∧ shownHeading "C#".toList = "C#".toList ∧
      Markdown.readBlocks "# C#".toList = [.heading 1 "C#\n".toList] := by
  refine ⟨by decide +kernel, by decide, ?_⟩
  exact @Markdown.readBlocks_headingLine 1 "C#".toList (by decide) (by decide) (by decide) (by decide)
    (by decide)

end Questionnaire
