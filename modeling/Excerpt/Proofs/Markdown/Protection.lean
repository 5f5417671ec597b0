import Excerpt.Markdown
import Excerpt.Proofs.Insertion.Announcement
import Excerpt.Proofs.Markdown.Fence

/-!
# Commands and blocks

A command line of a Markdown text is expanded unless it stands inside a block, and every other line
is given as it is. By which rules there is a block makes a difference: lines are read by looser
rules than those of Markdown, and behind the first line that is misread a command may be expanded
inside a block, or left alone outside of all blocks.

* `Expands`: the runs over a text that leave alone what stands inside the blocks of some rules.
* `Expands.congr`: they depend on the rules only through where there is a block.
* `run_expands`: the run over a text is that of the rules by which lines are read.
* `not_expands_openerInside`: it is not that of the rules of Markdown.
-/

namespace Excerpt.Markdown

/-- The run over the lines of a text in front of a recorder. -/
def run (settings : Settings) (disk : Disk) (recorder : Recorder) (lines : List Text) :
    Journal (List Text) :=
  expand settings disk recorder.listener lines []

/-- What replaces one line in front of a recorder, if it is known whether the line is protected. -/
def runOne (sources : Sources) (recorder : Recorder) (isProtected : Bool) (line : Text) :
    Journal (List Text) :=
  if isProtected || !isCommandLine line then pure [line]
  else Text.splitOn '\n' <$> sources.run recorder line

/-- The runs over lines, behind others, in which command lines outside blocks are expanded and all
other lines are given as they are. -/
inductive Expands (rules : BlockRules) (sources : Sources) (recorder : Recorder) :
    List Text → List Text → Journal (List Text) → Prop
  | nil {before : List Text} : Expands rules sources recorder before [] (pure [])
  | command {before rest : List Text} {line : Text} {run : Journal (List Text)}
      (hLine : isCommandLine line = true) (hOutside : ¬ rules.IsInside before)
      (hRest : Expands rules sources recorder (before ++ [line]) rest run) :
      Expands rules sources recorder before (line :: rest) do
        let text ← sources.run recorder line
        let texts ← run
        pure (Text.splitOn '\n' text ++ texts)
  | kept {before rest : List Text} {line : Text} {run : Journal (List Text)}
      (hLine : ¬ (isCommandLine line = true ∧ ¬ rules.IsInside before))
      (hRest : Expands rules sources recorder (before ++ [line]) rest run) :
      Expands rules sources recorder before (line :: rest) ((line :: ·) <$> run)

variable {settings : Settings} {disk : Disk} {sources : Sources} {recorder : Recorder}
  {rules rules' : BlockRules} {before lines : List Text} {line : Text}
  {run run' : Journal (List Text)}

/-- Two rules agree behind a line on what they agree about from that line on. -/
theorem agree_behind {rest : List Text}
    (hSame : ∀ front, front <+: line :: rest →
      (rules.IsInside (before ++ front) ↔ rules'.IsInside (before ++ front))) :
    ∀ front, front <+: rest →
      (rules.IsInside (before ++ [line] ++ front) ↔ rules'.IsInside (before ++ [line] ++ front)) := by
  intro front hFront
  rw [List.append_assoc]
  exact hSame (line :: front) (List.cons_prefix_cons.mpr ⟨rfl, hFront⟩)

namespace Expands

theorem unique (h : Expands rules sources recorder before lines run)
    (h' : Expands rules sources recorder before lines run') : run = run' := by
  induction h generalizing run' with
  | nil =>
    cases h'
    rfl
  | command hLine hOutside _ ih =>
    cases h' with
    | command _ _ hRest => rw [ih hRest]
    | kept hKept _ => exact absurd ⟨hLine, hOutside⟩ hKept
  | kept hKept _ ih =>
    cases h' with
    | command hLine hOutside _ => exact absurd ⟨hLine, hOutside⟩ hKept
    | kept _ hRest => rw [ih hRest]

/-- Rules under which there are blocks in the same places give the same run. -/
theorem congr (h : Expands rules sources recorder before lines run)
    (hSame : ∀ front, front <+: lines →
      (rules.IsInside (before ++ front) ↔ rules'.IsInside (before ++ front))) :
    Expands rules' sources recorder before lines run := by
  have hHere := hSame [] List.nil_prefix
  rw [List.append_nil] at hHere
  induction h with
  | nil => exact .nil
  | @command before rest line run hLine hOutside hRest ih =>
    have hNext := hSame [line] (List.prefix_append [line] rest)
    exact .command hLine (hHere.not.mp hOutside) (ih (agree_behind hSame) hNext)
  | @kept before rest line run hKept hRest ih =>
    have hNext := hSame [line] (List.prefix_append [line] rest)
    exact .kept (by rwa [← hHere]) (ih (agree_behind hSame) hNext)

end Expands

/-! ## The run of the lines that are judged -/

theorem expandOne_recorder (sources : Sources) (recorder : Recorder) (isProtected : Bool)
    (line : Text) (told : List Notice) :
    expandOne sources recorder.listener isProtected line told =
      runOne sources recorder isProtected line := by
  unfold expandOne runOne
  split
  · rfl
  · rw [Session.bind_apply, expandLine_recorder, map_eq_pure_bind]
    rfl

theorem flatten_mapM_cons {α β : Type} (f : α → Journal (List β)) (a : α) (rest : List α) :
    List.flatten <$> (a :: rest).mapM f = (do
      let first ← f a
      let more ← List.flatten <$> rest.mapM f
      pure (first ++ more)) := by
  simp [List.mapM_cons]

theorem run_of_judged (judged : List (Bool × Text))
    (h : (if settings.skipFences then Fence.protect none lines else lines.map (false, ·)) = judged) :
    Markdown.run settings disk recorder lines = List.flatten <$> judged.mapM fun line =>
      runOne ⟨disk, settings.root, settings.languages⟩ recorder line.1 line.2 := by
  unfold Markdown.run expand
  rw [h, map_eq_pure_bind]
  have hEach (line : Bool × Text) (told : List Notice) :=
    expandOne_recorder ⟨disk, settings.root, settings.languages⟩ recorder line.1 line.2 told
  rw [Session.bind_apply, Session.mapM_of_steady hEach]
  rfl

/-- A command line is no fence. -/
theorem ofLine?_of_command (h : isCommandLine line = true) : Fence.ofLine? line = none := by
  obtain ⟨kind, hKind⟩ := Option.isSome_iff_exists.mp h
  obtain ⟨rest, rfl⟩ := CommandKind.ofLine?_eq_some_iff.mp hKind
  cases kind <;> rfl

theorem isProtected_of_command (h : isCommandLine line = true) (opened : Option Fence) :
    Fence.isProtected opened line = opened.isSome := by
  simp [Fence.isProtected, ofLine?_of_command h]

/-- Lines that are judged by the block that is open before them are expanded outside blocks. -/
theorem expands_protect {opened : Option Fence} (hOpened : Fence.loose.Behind before opened)
    (hLines : ∀ line ∈ lines, '\n' ∉ line) :
    Expands Fence.loose sources recorder before lines
      (List.flatten <$> (Fence.protect opened lines).mapM fun line =>
        runOne sources recorder line.1 line.2) := by
  induction lines generalizing before opened with
  | nil => exact .nil
  | cons line rest ih =>
    rw [List.forall_mem_cons] at hLines
    have hBehind : Fence.loose.Behind (before ++ [line]) (Fence.stateBehind opened line) :=
      BlockRules.behind_concat_iff.mpr ⟨opened, hOpened, Fence.step_stateBehind hLines.1 opened⟩
    have hRest := ih hBehind hLines.2
    rw [Fence.protect, flatten_mapM_cons]
    dsimp only
    rw [runOne]
    by_cases hCommand : isCommandLine line = true ∧ ¬ Fence.loose.IsInside before
    · have hOutside := hOpened.isInside_iff.not.mp hCommand.2
      rw [isProtected_of_command hCommand.1, if_neg (by simp [hCommand.1, hOutside]),
        bind_map_left]
      exact .command hCommand.1 hCommand.2 hRest
    · have hKept : (Fence.isProtected opened line || !isCommandLine line) = true := by
        rw [hOpened.isInside_iff] at hCommand
        cases hLine : isCommandLine line with
        | false => simp
        | true =>
          rw [isProtected_of_command hLine]
          simpa [hLine, Option.isSome_iff_ne_none] using hCommand
      rw [if_pos hKept, pure_bind]
      exact .kept hCommand hRest

/-! ## The run over a text -/

/-- Whether some line is taken for the start or the end of a block against the rules of Markdown. -/
def HasMisread (lines : List Text) : Prop :=
  ∃ before line, before ++ [line] <+: lines ∧ Fence.IsMisread before line

/-- Lines are read by the looser rules, and those agree with the rules of Markdown on where there is
a block exactly if no line is misread. -/
theorem isInside_agree_iff :
    (∀ before, before <+: lines → (Fence.loose.IsInside before ↔ Fence.strict.IsInside before)) ↔
      ¬ HasMisread lines := by
  rw [Fence.admits_strict.agree_iff]
  constructor
  · rintro hSame ⟨before, line, hPrefix, hMisread⟩
    obtain ⟨opened, hBehind, hDiffer⟩ := Fence.isMisread_iff.mp hMisread
    exact hSame before line hPrefix opened hBehind hDiffer
  · intro hNone before line hPrefix opened hBehind hDiffer
    exact hNone ⟨before, line, hPrefix, Fence.isMisread_iff.mpr ⟨opened, hBehind, hDiffer⟩⟩

/-- A text in which every fence stands alone on its line, behind spaces only, is read as Markdown
reads it. -/
theorem not_hasMisread_of_bare (h : ∀ line ∈ lines, ∀ (f : Fence) (blanks rest : Text),
    f.StandsIn blanks rest line → (∀ c ∈ blanks, c = ' ') ∧ rest.isBlank = true) :
    ¬ HasMisread lines := by
  rintro ⟨before, line, hPrefix, hMisread⟩
  have hBare := h line (hPrefix.subset (List.mem_append_right _ (List.mem_singleton_self line)))
  cases hMisread with
  | opener hBefore hLine hRule =>
    obtain ⟨hSpaces, hBlank⟩ := hBare _ _ _ hLine
    rcases hRule with ⟨c, hc, hNot⟩ | ⟨-, hMem⟩
    · exact hNot (hSpaces c hc)
    · exact absurd (Text.isBlank_iff.mp hBlank _ hMem) (by decide)
  | closer hBefore hLine hCloses hRule =>
    obtain ⟨hSpaces, hBlank⟩ := hBare _ _ _ hLine
    rcases hRule with ⟨c, hc, hNot⟩ | hRest
    · exact hNot (hSpaces c hc)
    · cases hRest.symm.trans hBlank

/-- A command line is expanded exactly if it stands outside all blocks, and every other line is
given as it is. The blocks are those of the rules by which lines are read; they are those of
Markdown up to every line of the text exactly if no line is misread, and then the run is that of
Markdown. -/
theorem run_expands (hSkip : settings.skipFences = true) (hLines : ∀ line ∈ lines, '\n' ∉ line) :
    Expands Fence.loose ⟨disk, settings.root, settings.languages⟩ recorder [] lines
      (Markdown.run settings disk recorder lines) ∧
    ((∀ before, before <+: lines → (Fence.loose.IsInside before ↔ Fence.strict.IsInside before)) ↔
      ¬ HasMisread lines) ∧
    (¬ HasMisread lines → Expands Fence.strict ⟨disk, settings.root, settings.languages⟩ recorder []
      lines (Markdown.run settings disk recorder lines)) := by
  have hLoose : Expands Fence.loose ⟨disk, settings.root, settings.languages⟩ recorder [] lines
      (Markdown.run settings disk recorder lines) := by
    rw [run_of_judged (Fence.protect none lines) (if_pos hSkip)]
    exact expands_protect .nil hLines
  refine ⟨hLoose, isInside_agree_iff, fun hNone => ?_⟩
  exact hLoose.congr (isInside_agree_iff.mpr hNone)

/-- A command inside a block and one behind it. -/
def tildeBlock : List Text :=
  ["~~~", "insert_code(f:1)", "~~~", "insert_code(f:1)"].map String.toList

theorem run_expands_tildeBlock :
    ¬ HasMisread tildeBlock ∧
    Expands Fence.strict (sourcesWith ['x', '\n']) .keeping [] tildeBlock
      (Markdown.run {} (sourcesWith ['x', '\n']).disk .keeping tildeBlock) ∧
    (Markdown.run {} (sourcesWith ['x', '\n']).disk .keeping tildeBlock).outcome = .ok
      (["~~~", "insert_code(f:1)", "~~~", "```", "x", "```"].map
        String.toList) := by
  have hTildes : Fence.StandsIn ⟨'~', 3⟩ [] [] ['~', '~', '~'] :=
    ⟨rfl, rfl, by decide, .inr rfl, by decide, nofun⟩
  have hLines : ∀ line ∈ tildeBlock, '\n' ∉ line := by decide
  have hShape : ∀ line ∈ tildeBlock, line = ['~', '~', '~'] ∨ isCommandLine line = true := by
    decide
  have hBare : ¬ HasMisread tildeBlock := by
    refine not_hasMisread_of_bare fun line hLine f blanks rest hStands => ?_
    rcases hShape line hLine with rfl | hCommand
    · obtain ⟨-, rfl, rfl⟩ := hStands.unique hTildes
      exact ⟨nofun, rfl⟩
    · cases (ofLine?_of_command hCommand).symm.trans (hStands.ofLine?_eq (hLines line hLine))
  have hStandard : ({} : Settings).skipFences = true := rfl
  exact ⟨hBare, (run_expands hStandard hLines).2.2 hBare, by decide +kernel⟩

/-- A block in which a line looks like the start of another one, and a command behind it. -/
def openerInside : List Text :=
  ["```", "```python", "insert_code(f:1)", "```"].map String.toList

/-- The block ends at the line that only opens blocks, so the command inside it is expanded. -/
theorem not_expands_openerInside :
    (∀ line ∈ openerInside, '\n' ∉ line) ∧
    Fence.strict.IsInside (openerInside.take 2) ∧
    (Markdown.run {} (sourcesWith ['x', '\n']).disk .keeping openerInside).outcome = .ok
      (["```", "```python", "```", "x", "```",
        "```"].map String.toList) ∧
    ¬ Expands Fence.strict (sourcesWith ['x', '\n']) .keeping [] openerInside
      (Markdown.run {} (sourcesWith ['x', '\n']).disk .keeping openerInside) := by
  have hOpener : Fence.StandsIn ⟨'\x60', 3⟩ [] [] "```".toList :=
    ⟨rfl, rfl, by decide, .inl rfl, by decide, nofun⟩
  have hPython : Fence.StandsIn ⟨'\x60', 3⟩ [] "python".toList "```python".toList :=
    ⟨rfl, rfl, by decide, .inl rfl, by decide, by decide⟩
  have hInside : Fence.strict.IsInside (openerInside.take 2) := by
    refine ⟨_, [], _, ["```python".toList], rfl, .nil, ⟨[], [], hOpener, nofun, nofun⟩, ?_⟩
    rw [List.forall_mem_singleton]
    rintro ⟨f, blanks, rest, hStands, -, -, hBlank⟩
    obtain ⟨-, -, rfl⟩ := hStands.unique hPython
    cases hBlank
  have hOutcome : (Markdown.run {} (sourcesWith ['x', '\n']).disk .keeping openerInside).outcome =
      .ok (["```", "```python", "```", "x", "```", "```"].map String.toList) := by
    decide +kernel
  refine ⟨by decide, hInside, hOutcome, fun hStrict => ?_⟩
  have hKept : Expands Fence.strict (sourcesWith ['x', '\n']) .keeping [] openerInside
      (pure openerInside) :=
    .kept (fun h => absurd h.1 (by decide)) <| .kept (fun h => absurd h.1 (by decide)) <|
      .kept (fun h => h.2 hInside) <| .kept (fun h => absurd h.1 (by decide)) .nil
  rw [hStrict.unique hKept] at hOutcome
  exact absurd (Except.ok.inj hOutcome) (by decide)

end Excerpt.Markdown
