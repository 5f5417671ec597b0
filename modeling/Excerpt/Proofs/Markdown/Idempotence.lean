import Excerpt.Proofs.Markdown.Emission
import Excerpt.Proofs.Markdown.Protection

/-!
# A text that is expanded again

What a command is replaced by is one block, so it is protected when the text is read again, and the
lines behind it are read with no block open, as they were before. A command that was kept is kept
again, for the same reason. So a text that has been expanded is not changed by a second run, and
lines that begin with a command are not expanded if they were themselves inserted.

* `runFrom_append`: the run over two texts, one below the other.
* `IsSettled`: lines that are given as they are, and nothing is announced as inserted.
* `isSettled_of_runFrom`: what lines become is settled if every command becomes one block or stays.
* `run_again`: the run over a text that has been expanded.
-/

namespace Excerpt.Markdown

variable {sources : Sources} {recorder : Recorder} {opened after behind : Option Fence}
  {line : Text} {lines texts texts' : List Text} {f : Fence}

/-! ## Runs behind other lines -/

/-- The run over lines in front of which a block is open, or none. -/
def runFrom (sources : Sources) (recorder : Recorder) (opened : Option Fence)
    (lines : List Text) : Journal (List Text) :=
  List.flatten <$> (Fence.protect opened lines).mapM fun judged =>
    runOne sources recorder judged.1 judged.2

theorem runFrom_nil : runFrom sources recorder opened [] = pure [] := rfl

theorem runFrom_cons (line : Text) (rest : List Text) :
    runFrom sources recorder opened (line :: rest) = (do
      let first ← runOne sources recorder (Fence.isProtected opened line) line
      let more ← runFrom sources recorder (Fence.stateBehind opened line) rest
      pure (first ++ more)) := by
  unfold runFrom
  rw [Fence.protect, flatten_mapM_cons]

theorem runFrom_append (front back : List Text) :
    runFrom sources recorder opened (front ++ back) = (do
      let first ← runFrom sources recorder opened front
      let more ← runFrom sources recorder (front.foldl Fence.stateBehind opened) back
      pure (first ++ more)) := by
  induction front generalizing opened with
  | nil => simp [runFrom_nil]
  | cons line rest ih =>
    simp only [List.cons_append, runFrom_cons, ih, bind_assoc, pure_bind, List.append_assoc,
      List.foldl_cons]

theorem run_eq_runFrom {settings : Settings} (hSkip : settings.skipFences = true) (disk : Disk) :
    Markdown.run settings disk recorder lines =
      runFrom ⟨disk, settings.root, settings.languages⟩ recorder none lines :=
  run_of_judged _ (if_pos hSkip)

/-! ## Settled lines -/

/-- Lines that are given as they are, without an insertion, and the block that they leave open. -/
structure IsSettled (sources : Sources) (recorder : Recorder) (opened : Option Fence)
    (lines : List Text) (after : Option Fence) : Prop where
  outcome : (runFrom sources recorder opened lines).outcome = .ok lines
  quiet : (runFrom sources recorder opened lines).Tells
    fun n => n.eventName? ≠ some Diagnostic.insertedName
  state : lines.foldl Fence.stateBehind opened = after

theorem IsSettled.nil : IsSettled sources recorder opened [] opened :=
  ⟨rfl, Journal.tells_pure _, rfl⟩

theorem IsSettled.append {front back : List Text}
    (hFront : IsSettled sources recorder opened front after)
    (hBack : IsSettled sources recorder after back behind) :
    IsSettled sources recorder opened (front ++ back) behind where
  outcome := by
    rw [runFrom_append, hFront.state]
    simp only [Journal.outcome_bind, hFront.outcome, hBack.outcome]
    rfl
  quiet := by
    rw [runFrom_append, hFront.state]
    exact Journal.tells_bind hFront.quiet fun _ _ =>
      Journal.tells_bind hBack.quiet fun _ _ => Journal.tells_pure _
  state := by rw [List.foldl_append, hFront.state, hBack.state]

theorem stateBehind_eq (hLine : '\n' ∉ line) (hStep : Fence.loose.Step line opened after) :
    Fence.stateBehind opened line = after :=
  (BlockRules.existsUnique_step Fence.loose line opened).unique
    (Fence.step_stateBehind hLine opened) hStep

/-- A line that is no command, or stands inside a block, is settled. -/
theorem isSettled_line (h : (Fence.isProtected opened line || !isCommandLine line) = true)
    (hLine : '\n' ∉ line) (hStep : Fence.loose.Step line opened after) :
    IsSettled sources recorder opened [line] after := by
  have hRun : runFrom sources recorder opened [line] = pure [line] := by
    rw [runFrom_cons, runOne, if_pos h, runFrom_nil]
    rfl
  exact ⟨by rw [hRun]; rfl, hRun ▸ Journal.tells_pure _, stateBehind_eq hLine hStep⟩

/-- So are lines that follow each other inside a block. -/
theorem isSettled_inner (hLines : ∀ line ∈ lines, '\n' ∉ line)
    (hInner : ∀ line ∈ lines, ¬ Fence.loose.Closes f line) :
    IsSettled sources recorder (some f) lines (some f) := by
  induction lines with
  | nil => exact .nil
  | cons line rest ih =>
    rw [List.forall_mem_cons] at hLines hInner
    have hFirst : IsSettled sources recorder (some f) [line] (some f) :=
      isSettled_line rfl hLines.1 (.inner hInner.1)
    exact hFirst.append (ih hLines.2 hInner.2)

/-- And so is a block, behind which none is open. -/
theorem isSettled_block (hBlock : Fence.loose.IsBlock lines)
    (hLines : ∀ line ∈ lines, '\n' ∉ line) : IsSettled sources recorder none lines none := by
  obtain ⟨opener, inner, closer, f, rfl, hOpens, hInner, hCloses⟩ := hBlock
  rw [List.forall_mem_append, List.forall_mem_cons, List.forall_mem_singleton] at hLines
  obtain ⟨⟨hOpener, hInnerLines⟩, hCloser⟩ := hLines
  have hProtected : Fence.isProtected none opener = true := by
    obtain ⟨blanks, rest, hStands⟩ := hOpens
    rw [Fence.isProtected, hStands.ofLine?_eq hOpener]
    rfl
  have hFirst : IsSettled sources recorder none [opener] (some f) :=
    isSettled_line (by rw [hProtected]; rfl) hOpener (.opener hOpens)
  have hLast : IsSettled sources recorder (some f) [closer] none :=
    isSettled_line rfl hCloser (.closer hCloses)
  exact (hFirst.append (isSettled_inner hInnerLines hInner)).append hLast

/-! ## Commands -/

/-- A run that keeps a line announces nothing as inserted. -/
theorem tells_of_run_kept (hRun : (sources.run recorder line).outcome = .ok line) :
    (sources.run recorder line).Tells fun n => n.eventName? ≠ some Diagnostic.insertedName := by
  obtain ⟨i, hBuild, -, hTold⟩ | ⟨-, hSilent⟩ := sources.run_announced_or_silent recorder line
  · rw [hTold] at hRun
    exact absurd rfl (i.fenced_ne hRun (Insertion.isCommandLine_of_build hBuild))
  · exact fun n hn hName => hSilent.not_announces ⟨n, hn, hName⟩

theorem runFrom_command (hCommand : isCommandLine line = true) :
    runFrom sources recorder none [line] =
      Text.splitOn '\n' <$> sources.run recorder line := by
  rw [runFrom_cons, runOne, isProtected_of_command hCommand,
    if_neg (by simp [hCommand]), runFrom_nil]
  simp

theorem step_command (hCommand : isCommandLine line = true) (hLine : '\n' ∉ line) :
    Fence.loose.Step line none none := by
  have hStep := Fence.step_stateBehind hLine none
  unfold Fence.stateBehind at hStep
  rwa [ofLine?_of_command hCommand] at hStep

/-- A command outside all blocks becomes settled lines if it is kept, or becomes one block. -/
theorem isSettled_command {text : Text} (hCommand : isCommandLine line = true)
    (hLine : '\n' ∉ line) (hRun : (sources.run recorder line).outcome = .ok text)
    (hBlock : text ≠ line → Fence.loose.IsBlock (Text.splitOn '\n' text)) :
    IsSettled sources recorder none (Text.splitOn '\n' text) none := by
  by_cases hKept : text = line
  · subst hKept
    have hOnce : runFrom sources recorder none [text] =
        Text.splitOn '\n' <$> sources.run recorder text := runFrom_command hCommand
    rw [Text.splitOn_of_not_mem hLine]
    refine ⟨?_, ?_, stateBehind_eq hLine (step_command hCommand hLine)⟩
    · rw [hOnce, Journal.map_eq, hRun, ← Text.splitOn_of_not_mem hLine]
      rfl
    · rw [hOnce, Journal.map_eq]
      exact tells_of_run_kept hRun
  · exact isSettled_block (hBlock hKept) fun _ => Text.not_mem_of_mem_splitOn

/-! ## Texts that have been expanded -/

/-- Whether every command that is expanded becomes one block, where some block is open in front of
the lines or none. -/
def BecomeBlocks (sources : Sources) (recorder : Recorder) (opened : Option Fence)
    (lines : List Text) : Prop :=
  ∀ before line, before ++ [line] <+: lines → before.foldl Fence.stateBehind opened = none →
    ∀ text, (sources.run recorder line).outcome = .ok text → text ≠ line →
      Fence.loose.IsBlock (Text.splitOn '\n' text)

theorem BecomeBlocks.tail {rest : List Text}
    (h : BecomeBlocks sources recorder opened (line :: rest)) :
    BecomeBlocks sources recorder (Fence.stateBehind opened line) rest := by
  intro before next hPrefix hState
  exact h (line :: before) next (List.cons_prefix_cons.mpr ⟨rfl, hPrefix⟩) hState

/-- What lines become is settled, and leaves the same block open as the lines did. -/
theorem isSettled_of_runFrom (hRun : (runFrom sources recorder opened lines).outcome = .ok texts)
    (hLines : ∀ line ∈ lines, '\n' ∉ line) (hBlocks : BecomeBlocks sources recorder opened lines) :
    IsSettled sources recorder opened texts (lines.foldl Fence.stateBehind opened) := by
  -- what the first line becomes leaves the same block open as the line itself
  induction lines generalizing opened texts with
  | nil =>
    cases hRun
    exact .nil
  | cons line rest ih =>
    rw [List.forall_mem_cons] at hLines
    rw [runFrom_cons] at hRun
    simp only [Journal.outcome_bind] at hRun
    obtain ⟨first, hFirst, hRun⟩ := bind_eq_ok_iff.mp hRun
    obtain ⟨more, hMore, hRun⟩ := bind_eq_ok_iff.mp hRun
    cases hRun
    refine IsSettled.append ?_ (ih hMore hLines.2 hBlocks.tail)
    rw [runOne] at hFirst
    split at hFirst
    · rename_i hKept
      cases hFirst
      exact isSettled_line hKept hLines.1 (Fence.step_stateBehind hLines.1 opened)
    · rename_i hExpanded
      have hCommand : isCommandLine line = true := by
        simp only [Bool.or_eq_true, Bool.not_eq_true', not_or, Bool.not_eq_false] at hExpanded
        exact hExpanded.2
      have hNone : opened = none := by
        simpa [isProtected_of_command hCommand, hCommand] using hExpanded
      subst hNone
      rw [Journal.map_eq] at hFirst
      obtain ⟨text, hText, rfl⟩ := map_eq_ok_iff.mp hFirst
      rw [stateBehind_eq hLines.1 (step_command hCommand hLines.1)]
      exact isSettled_command hCommand hLines.1 hText
        (hBlocks [] line (List.prefix_append [line] rest) rfl text hText)

/-- An insertion without a fence among its rendered lines, and with a tag that leaves the opening
fence as long as the closing one. -/
structure IsFenceFree (i : Insertion) : Prop where
  tag_mark : i.tag.head? ≠ some '\x60'
  tag_line : '\n' ∉ i.tag
  lines : ∀ rendered, i.rendering.lines i.block = .ok rendered →
    ∀ line ∈ rendered, Fence.ofLine? line = none

/-- Whether the insertion is that of a command outside all blocks. -/
def Inserts (settings : Settings) (disk : Disk) (lines : List Text) (i : Insertion) : Prop :=
  ∃ before line, before ++ [line] <+: lines ∧ ¬ Fence.loose.IsInside before ∧
    (Insertion.build ⟨disk, settings.root, settings.languages⟩ line).outcome = .ok i

variable {settings : Settings} {disk : Disk}

theorem becomeBlocks_of_isFenceFree (hLines : ∀ line ∈ lines, '\n' ∉ line)
    (hFree : ∀ i, Inserts settings disk lines i → IsFenceFree i) :
    BecomeBlocks ⟨disk, settings.root, settings.languages⟩ recorder none lines := by
  intro before line hPrefix hState text hRun hExpanded
  obtain ⟨i, rendered, hBuild, -, hRendered, rfl⟩ := Sources.exists_insertion_of_run hRun hExpanded
  have hBefore : ∀ line ∈ before, '\n' ∉ line := fun line hLine =>
    hLines line (hPrefix.subset (List.mem_append_left _ hLine))
  have hOutside : ¬ Fence.loose.IsInside before := by
    rw [(Fence.behind_stateBehind hBefore).isInside_iff, hState]
    exact Bool.false_ne_true
  have hOne := hFree i ⟨before, line, hPrefix, hOutside, hBuild⟩
  have hNoFeed := Insertion.not_mem_of_mem_lines hBuild hRendered
  refine (Insertion.isBlock_iff hNoFeed i.tag).mpr ⟨hOne.tag_mark, ?_⟩
  rw [Text.splitOn_of_not_mem hOne.tag_line]
  intro l hl
  rw [Fence.isTicked_iff (hNoFeed l hl), hOne.lines rendered hRendered l hl]
  rintro ⟨f, ⟨⟩, -⟩

/-- A text that has been expanded is given as it is, and nothing is announced as inserted, if no
rendered line is a fence and no tag begins with a backtick or is cut by a line feed. -/
theorem run_again (hSkip : settings.skipFences = true) (hLines : ∀ line ∈ lines, '\n' ∉ line)
    (hRun : (Markdown.run settings disk recorder lines).outcome = .ok texts)
    (hFree : ∀ i, Inserts settings disk lines i → IsFenceFree i) :
    (Markdown.run settings disk recorder texts).outcome = .ok texts ∧
      (Markdown.run settings disk recorder texts).Tells
        fun n => n.eventName? ≠ some Diagnostic.insertedName := by
  rw [run_eq_runFrom hSkip] at hRun ⊢
  have hSettled := isSettled_of_runFrom hRun hLines (becomeBlocks_of_isFenceFree hLines hFree)
  exact ⟨hSettled.outcome, hSettled.quiet⟩

/-- A file whose line begins with a command. -/
def commandFile : Sources := sourcesWith "insert_code(f:1)\n".toList

/-- A command inside a block, one whose file is missing, one that inserts a line which begins with a
command, and one behind the end of the file. -/
def commandsAbout : List Text :=
  ["~~~~", "insert_code(f:1)", "~~~", "~~~~", "insert_code(x:1)", "insert_code(f:1)",
    "insert_code(f:9)"].map String.toList

/-- What they become. -/
def expandedAbout : List Text :=
  ["~~~~", "insert_code(f:1)", "~~~", "~~~~", "insert_code(x:1)", "```", "insert_code(f:1)",
    "```", "```", "```"].map String.toList

theorem run_again_commandsAbout :
    (Markdown.run {} commandFile.disk .keeping commandsAbout).outcome = .ok expandedAbout ∧
    (Markdown.run {} commandFile.disk .keeping expandedAbout).outcome = .ok expandedAbout := by
  have hRun : (Markdown.run {} commandFile.disk .keeping commandsAbout).outcome =
      .ok expandedAbout := by decide +kernel
  have hStandard : ({} : Settings).skipFences = true := rfl
  have hFound : commandsAbout.filterMap (fun line =>
      (Insertion.build commandFile line).outcome.toOption.map fun i =>
        (i.tag, i.rendering.lines i.block)) =
      [([], .ok ["insert_code(f:1)".toList]), ([], .ok ["insert_code(f:1)".toList]),
        ([], .ok [])] := by decide +kernel
  have hFree : ∀ i, Inserts {} commandFile.disk commandsAbout i → IsFenceFree i := by
    rintro i ⟨before, line, hPrefix, -, hBuild⟩
    have hMem : line ∈ commandsAbout :=
      hPrefix.subset (List.mem_append_right _ (List.mem_singleton_self line))
    have hBuilt : (Insertion.build commandFile line).outcome = .ok i := hBuild
    have hOne : (i.tag, i.rendering.lines i.block) ∈
        [([], .ok ["insert_code(f:1)".toList]), ([], .ok ["insert_code(f:1)".toList]),
          ([], .ok [])] := by
      rw [← hFound, List.mem_filterMap]
      exact ⟨line, hMem, by rw [hBuilt]; rfl⟩
    have hTag : i.tag = [] ∧ ∀ rendered, i.rendering.lines i.block = .ok rendered →
        rendered = ["insert_code(f:1)".toList] ∨ rendered = [] := by
      simp only [List.mem_cons, Prod.mk.injEq, List.not_mem_nil, or_false] at hOne
      rcases hOne with ⟨hTag, hLines⟩ | ⟨hTag, hLines⟩ | ⟨hTag, hLines⟩ <;>
        simp [hTag, hLines]
    refine ⟨by simp [hTag.1], by simp [hTag.1], fun rendered hRendered => ?_⟩
    rcases hTag.2 rendered hRendered with rfl | rfl
    · decide
    · exact nofun
  exact ⟨hRun, (run_again hStandard (by decide) hRun hFree).1⟩

end Excerpt.Markdown
