import Questionnaire.Proofs.Command.Platforms

/-! # Rendering is the part that may be left out

The command as a whole takes no plain arguments, so reading stops at once where the first one has no
dash and names no part. Nothing has been noted by then, and the second reading starts afresh with
`render` in front: it is the first argument alone that decides how a command line is read. Extra
parameters are split off before, and `render` is neither one of them nor the value of one. What is left
to tell such runs apart is the platform: two runs of one command line may differ in the orders in which
they visit maps.
-/

namespace Questionnaire.Command

/-- The command as a whole has no place for a plain argument. -/
theorem readWhole_of_leavesOutPart {arguments : List String} (h : leavesOutPart arguments = true) :
    readWhole arguments = .error .usage := by
  cases arguments with
  | nil => cases h
  | cons first rest =>
    obtain ⟨plain, noPart⟩ : isDashed first = false ∧ first ∉ partNames := by
      simpa [leavesOutPart] using h
    have kind : ArgumentKind.of wholeShape first = .plain :=
      ArgumentKind.of_canBeValue noPart (by simp [canBeValue, plain])
    have refused : readMatches wholeShape {} (first :: rest) = .error .usage := by
      rw [readMatches, kind]
      rfl
    rw [readWhole, refused]
    rfl

/-- How a command line is read depends on its first argument, not on whether a first reading fails. -/
theorem readArguments_eq (arguments : List String) :
    readArguments arguments = readWhole (withPart arguments) := by
  rw [readArguments, withPart]
  cases h : leavesOutPart arguments with
  | true => rw [readWhole_of_leavesOutPart h]
  | false =>
    rw [if_neg Bool.false_ne_true]
    cases readWhole arguments <;> rfl

theorem withPart_of_leavesOutPart {arguments : List String} (h : leavesOutPart arguments = true) :
    withPart arguments = withPart ("render" :: arguments) := by
  have named : leavesOutPart ("render" :: arguments) = false := by
    simp [leavesOutPart, partNames]
  rw [withPart, if_pos h, withPart, named]
  rfl

theorem of_readPart {shape : Shape} {arguments : List String} {action? : Matches → Option Action}
    {found : Matches} {action : Action}
    (h : readPart shape arguments action? = .ok (found, action)) : action? found = some action := by
  obtain ⟨other, -, h⟩ := Except.bind_eq_ok_iff.mp h
  split at h
  · rename_i asked
    cases h
    exact asked
  · cases h

/-- What is read behind `render` is to be rendered. -/
theorem action_of_render {rest : List String} {invocation : Invocation}
    (h : readWhole ("render" :: rest) = .ok invocation) :
    ∃ input format output title, invocation.action = some (.render input format output title) := by
  rw [readWhole_part (by decide)] at h
  obtain ⟨⟨found, action⟩, part, h⟩ := Except.bind_eq_ok_iff.mp h
  cases h
  obtain ⟨input, -, asked⟩ := Option.map_eq_some_iff.mp (of_readPart part)
  exact ⟨input, _, _, _, congrArg some asked.symm⟩

/-- The name of the part in front stays there, whatever extra parameters follow. -/
theorem splitExtras_render (extras : Extras) (arguments : List String) :
    splitExtras extras ("render" :: arguments) =
      ("render" :: (splitExtras extras arguments).1, (splitExtras extras arguments).2) := by
  have others : ∀ argument ∈ ["render"], extraName? argument = none := by decide
  exact splitExtras_others others extras arguments

theorem session_render {arguments : List String}
    (h : leavesOutPart (splitExtras [] arguments).1 = true) (platform : Platform) :
    session arguments platform = session ("render" :: arguments) platform := by
  have last := withPart_of_leavesOutPart h
  have read : readArguments (splitExtras [] arguments).1 =
      readArguments ("render" :: (splitExtras [] arguments).1) := by
    rw [readArguments_eq, readArguments_eq, last]
  unfold session
  rw [splitExtras_render]
  dsimp only
  rw [read, last]

/-- **Rendering is the part that may be left out.** Where the first of the arguments that are left
besides the extra parameters has no dash and names no part, the run is the same as with `render` in
front of all arguments, in every directory and on every platform: the exit status, what is printed, the
lines that are logged and the files behind it. If such arguments can be understood, something is to be
rendered. Both runs may also visit parameters and tables in orders of their own, if at most one
parameter that is left is unknown to pages and no configuration file reaches a setting twice. -/
theorem render_may_be_left_out (arguments : List String) (directory : Directory) {first : String}
    {rest : List String} (left : (splitExtras [] arguments).1 = first :: rest)
    (plain : isDashed first = false) (noPart : first ∉ partNames) :
    (∀ platform, (session arguments platform).run directory =
      (session ("render" :: arguments) platform).run directory) ∧
    ((∀ invocation, readArguments (first :: rest) = .ok invocation →
        (loaderIn directory invocation.config).Orderly) →
      (unknownParameters (splitExtras [] arguments).2.leftover).length ≤ 1 →
      ∀ (platform : Platform) parameterOrder tableOrder,
        (session arguments platform).run directory =
          (session ("render" :: arguments)
            { platform with parameterOrder, tableOrder }).run directory) ∧
    ∀ invocation, readArguments (first :: rest) = .ok invocation →
      ∃ input format output title, invocation.action = some (.render input format output title) := by
  have leaves : leavesOutPart (first :: rest) = true := by simp [leavesOutPart, plain, noPart]
  have same := session_render (left ▸ leaves)
  refine ⟨fun platform => by rw [same], fun orderly few platform parameters tables => ?_,
    fun invocation read => ?_⟩
  · rw [run_session_of_orderly (left ▸ orderly) few platform parameters tables, same]
  · rw [readArguments_eq, withPart, if_pos leaves] at read
    exact action_of_render read

/-- Extra parameters in front of and behind the file, one of them unknown, and a shared option. -/
theorem render_may_be_left_out_extras :
    let arguments := ["--extra-policy", "strict", "quiz.md", "--extra-theme", "dark", "--config",
      "own.toml"]
    let directory : Directory :=
      ⟨[(["quiz.md".toList], "q = ___".toUTF8), (["own.toml".toList], "form.method='get'".toUTF8)]⟩
    (∀ parameterOrder tableOrder, (session arguments).run directory =
      (session ("render" :: arguments)
        { Platform.standard with parameterOrder, tableOrder }).run directory) ∧
      ((session arguments).run directory).1.log =
        ["Serialization error: Operation not supported: Unknown html parameter 'theme'"] := by
  intro arguments directory
  have left : (splitExtras [] arguments).1 = "quiz.md" :: ["--config", "own.toml"] := by decide
  have read : readArguments ("quiz.md" :: ["--config", "own.toml"]) =
      .ok ⟨false, some "own.toml", some (.render "quiz.md" none none none)⟩ := by decide +kernel
  have orderly : ∀ invocation, readArguments ("quiz.md" :: ["--config", "own.toml"]) = .ok invocation →
      (loaderIn directory invocation.config).Orderly := by
    intro invocation found
    rw [read] at found
    cases found
    decide +kernel
  exact ⟨(render_may_be_left_out arguments directory left (by decide) (by decide)).2.1 orderly
    (by decide +kernel) .standard, by decide +kernel⟩

/-- Two unknown parameters, of which each run names the one that it visits first. -/
theorem render_left_out_shows_order :
    let arguments := ["quiz.md", "--extra-lang", "de", "--extra-theme", "dark"]
    let directory : Directory := ⟨[(["quiz.md".toList], "q = ___".toUTF8)]⟩
    let backwards : Platform :=
      { Platform.standard with parameterOrder := ⟨List.reverse, List.reverse_perm⟩ }
    ((session arguments).run directory).1.log =
        ["Serialization error: Operation not supported: Unknown html parameter 'lang'"] ∧
      ((session ("render" :: arguments) backwards).run directory).1.log =
        ["Serialization error: Operation not supported: Unknown html parameter 'theme'"] := by
  decide +kernel

end Questionnaire.Command
