import Excerpt.Proofs.Insertion.Announcement
import Excerpt.Proofs.Markdown.Fence
import Excerpt.Proofs.Render.Characters

/-!
# The block that a command is replaced by

What stands for a command is read again by everyone who reads the document. It is meant to be one
block: its first line opens it, and the first line that closes it is the last one. A fence has three
backticks, whatever stands behind or below it. So the block ends where it should unless the language
tag makes the opening fence longer, or a fence of backticks stands among the rendered lines or among
the lines of the tag behind its first.

* `BlockRules.IsBlock`: lines that are one block.
* `Insertion.isBlock_iff`: when the lines of a fenced text are one block.
* `run_emits_block`: the same of every command that is expanded.
* `not_emits_block`: a line, a tag and a line of a tag that break a block.
-/

namespace Excerpt

namespace Markdown

/-- Lines that are one block from the first to the last. -/
def BlockRules.IsBlock (rules : BlockRules) (lines : List Text) : Prop :=
  ∃ opener inner closer f, lines = opener :: inner ++ [closer] ∧ rules.Opens opener f ∧
    (∀ line ∈ inner, ¬ rules.Closes f line) ∧ rules.Closes f closer

namespace Fence

/-- Whether a line is a fence of backticks. -/
def IsTicked (line : Text) : Prop := ∃ f, loose.Opens line f ∧ f.mark = '\x60'

variable {line : Text} {f : Fence}

theorem isTicked_iff (hLine : '\n' ∉ line) :
    IsTicked line ↔ ∃ f, ofLine? line = some f ∧ f.mark = '\x60' := by
  simp only [ofLine?_eq_some_iff hLine]
  rfl

/-- A fence of three backticks is closed by any fence of backticks. -/
theorem closes_three_iff : loose.Closes ⟨'\x60', 3⟩ line ↔ IsTicked line := by
  constructor
  · rintro ⟨f, blanks, rest, h, hCloses⟩
    simp only [closes, Bool.and_eq_true, decide_eq_true_eq] at hCloses
    exact ⟨f, ⟨blanks, rest, h⟩, hCloses.1⟩
  · rintro ⟨f, ⟨blanks, rest, h⟩, hMark⟩
    exact ⟨f, blanks, rest, h, by simp [closes, hMark, h.long]⟩

/-- A run of three backticks, and what stands behind it. -/
theorem standsIn_fenceMark (t : Text) :
    StandsIn ⟨'\x60', 3 + (t.takeWhile (· == '\x60')).length⟩ [] (t.dropWhile (· == '\x60'))
      (fenceMark ++ t) where
  line_eq := by
    rw [List.replicate_add, List.append_assoc, run_append_dropWhile]
    rfl
  blank := rfl
  near := Nat.zero_le _
  marked := .inl rfl
  long := Nat.le_add_right _ _
  whole := head?_dropWhile_ne _ _

theorem closes_fenceMark_iff : loose.Closes f fenceMark ↔ f.mark = '\x60' ∧ f.length ≤ 3 := by
  have hMark := standsIn_fenceMark []
  rw [List.append_nil] at hMark
  constructor
  · rintro ⟨g, blanks, rest, h, hCloses⟩
    obtain ⟨rfl, -, -⟩ := h.unique hMark
    simp only [closes, Bool.and_eq_true, decide_eq_true_eq] at hCloses
    exact ⟨hCloses.1.symm, hCloses.2⟩
  · rintro ⟨hTick, hLength⟩
    exact ⟨_, [], _, hMark, by simp [closes, hTick, hLength]⟩

end Fence

end Markdown

namespace Insertion

open Markdown

/-- The lines of a fenced text. -/
theorem splitOn_fence {rendered : List Text} (hRendered : ∀ line ∈ rendered, '\n' ∉ line)
    {tag first : Text} {behind : List Text} (hTag : Text.splitOn '\n' tag = first :: behind) :
    Text.splitOn '\n' (fence (rendered.flatMap (· ++ ['\n'])) tag) =
      (fenceMark ++ first) :: (behind ++ rendered) ++ [fenceMark] := by
  have hMark : '\n' ∉ fenceMark := by decide
  have hLines : ∀ line ∈ rendered ++ [fenceMark], '\n' ∉ line := by
    rw [List.forall_mem_append, List.forall_mem_singleton]
    exact ⟨hRendered, hMark⟩
  have hText : fence (rendered.flatMap (· ++ ['\n'])) tag =
      (fenceMark ++ tag) ++ '\n' :: Text.join ['\n'] (rendered ++ [fenceMark]) := by
    rw [Text.join_snoc]
    simp [fence]
  rw [hText, Text.splitOn_append_separator, Text.splitOn_append_of_not_mem hMark hTag,
    Text.splitOn_join (by simp) hLines]
  simp

/-- When the lines of a fenced text are one block. -/
theorem isBlock_iff {rendered : List Text} (hRendered : ∀ line ∈ rendered, '\n' ∉ line)
    (tag : Text) :
    Fence.loose.IsBlock (Text.splitOn '\n' (fence (rendered.flatMap (· ++ ['\n'])) tag)) ↔
      tag.head? ≠ some '\x60' ∧
        ∀ line ∈ (Text.splitOn '\n' tag).tail ++ rendered, ¬ Fence.IsTicked line := by
  obtain ⟨first, behind, hTag⟩ := List.exists_cons_of_ne_nil (Text.splitOn_ne_nil '\n' tag)
  have hOpens := Fence.standsIn_fenceMark first
  rw [splitOn_fence hRendered hTag, hTag, List.tail_cons, Ne,
    Text.head?_of_splitOn hTag (by decide)]
  have hRun : first.head? ≠ some '\x60' ↔ (first.takeWhile (· == '\x60')).length = 0 := by
    cases first with
    | nil => simp
    | cons c rest => by_cases hc : c = '\x60' <;> simp [hc]
  constructor
  · rintro ⟨opener, inner, closer, f, hLines, ⟨blanks, rest, hOpener⟩, hInner, hCloser⟩
    obtain ⟨hFront, hLast⟩ := List.append_inj' hLines rfl
    cases hFront
    cases hLast
    obtain ⟨rfl, -, -⟩ := hOpener.unique hOpens
    -- the last line has three backticks, so the first one can have no more
    have hNone : (first.takeWhile (· == '\x60')).length = 0 := by
      have hLength := (Fence.closes_fenceMark_iff.mp hCloser).2
      dsimp only at hLength
      omega
    rw [hNone] at hInner
    exact ⟨hRun.mpr hNone, fun line hLine hTicked =>
      hInner line hLine (Fence.closes_three_iff.mpr hTicked)⟩
  · rintro ⟨hFirst, hInner⟩
    rw [hRun.mp hFirst] at hOpens
    exact ⟨_, _, _, ⟨'\x60', 3⟩, rfl, ⟨[], _, hOpens⟩,
      fun line hLine hCloses => hInner line hLine (Fence.closes_three_iff.mp hCloses),
      Fence.closes_fenceMark_iff.mpr ⟨rfl, Nat.le_refl 3⟩⟩

end Insertion

variable {sources : Sources} {recorder : Recorder} {line text : Text}

/-- A line that becomes something else is a command whose block is rendered. -/
theorem Sources.exists_insertion_of_run (hRun : (sources.run recorder line).outcome = .ok text)
    (hExpanded : text ≠ line) :
    ∃ (i : Insertion) (rendered : List Text), (Insertion.build sources line).outcome = .ok i ∧
      i.IsHeard recorder ∧ i.rendering.lines i.block = .ok rendered ∧
      text = fence (rendered.flatMap (· ++ ['\n'])) i.tag := by
  cases hLine : isCommandLine line with
  | false =>
    rw [sources.run_of_not_command recorder hLine] at hRun
    cases hRun
    exact absurd rfl hExpanded
  | true =>
    have hCases := run_cases sources recorder hLine
    generalize sources.run recorder line = run at hRun hCases
    cases hCases with
    | kept =>
      cases hRun
      exact absurd rfl hExpanded
    | failed | unheard => cases hRun
    | @announced i hBuild hHeard =>
      obtain ⟨body, hBody, rfl⟩ := map_eq_ok_iff.mp hRun
      obtain ⟨rendered, hRendered, rfl⟩ := map_eq_ok_iff.mp hBody
      exact ⟨i, rendered, hBuild, hHeard, hRendered, rfl⟩

/-- The first line of what a command is replaced by opens a block. The first line that closes this
block is the last one if and only if the language tag does not begin with a backtick and neither a
rendered line nor a line of the tag behind its first is a fence of backticks. -/
theorem run_emits_block (hRun : (sources.run recorder line).outcome = .ok text)
    (hExpanded : text ≠ line) :
    ∃ (i : Insertion) (rendered : List Text), (Insertion.build sources line).outcome = .ok i ∧
      i.rendering.lines i.block = .ok rendered ∧
      (∃ opener inner f, Text.splitOn '\n' text = opener :: inner ∧
        Markdown.Fence.loose.Opens opener f) ∧
      (Markdown.Fence.loose.IsBlock (Text.splitOn '\n' text) ↔ i.tag.head? ≠ some '\x60' ∧
        ∀ l ∈ (Text.splitOn '\n' i.tag).tail ++ rendered, ¬ Markdown.Fence.IsTicked l) := by
  obtain ⟨i, rendered, hBuild, -, hRendered, rfl⟩ := Sources.exists_insertion_of_run hRun hExpanded
  have hNoFeed := Insertion.not_mem_of_mem_lines hBuild hRendered
  refine ⟨i, rendered, hBuild, hRendered, ?_, Insertion.isBlock_iff hNoFeed i.tag⟩
  obtain ⟨first, behind, hTag⟩ := List.exists_cons_of_ne_nil (Text.splitOn_ne_nil '\n' i.tag)
  exact ⟨_, _, _, Insertion.splitOn_fence hNoFeed hTag, [], _,
    Markdown.Fence.standsIn_fenceMark first⟩

/-- A command that inserts the first line of a file. -/
def topLine : Text := "insert_code(f:1)".toList

/-- A file with one line, and a table that gives it the tag. -/
def sourcesTagged (tag : Text) (line : Text) : Sources :=
  { sourcesWith (line ++ ['\n']) with languages := [([], tag)] }

theorem fence_ne_topLine (body tag : Text) : fence body tag ≠ topLine := by
  intro h
  have hLine : isCommandLine topLine = true := by decide
  cases (h ▸ isCommandLine_fence body tag).symm.trans hLine

/-- A line of tildes, in a file with a tag of two lines. -/
def tildeSources : Sources := sourcesTagged ['a', '\n', 'b'] ['~', '~', '~']

/-- The line between fences. -/
def tildeText : Text := fence ['~', '~', '~', '\n'] ['a', '\n', 'b']

/-- Neither a fence of tildes among the rendered lines nor a tag of two lines is any harm. -/
theorem run_emits_block_tildes :
    (tildeSources.run .keeping topLine).outcome = .ok tildeText ∧
      Markdown.Fence.loose.IsBlock (Text.splitOn '\n' tildeText) := by
  have hRun : (tildeSources.run .keeping topLine).outcome = .ok tildeText := by decide +kernel
  refine ⟨hRun, ?_⟩
  obtain ⟨i, rendered, hBuild, hRendered, -, hBlock⟩ := run_emits_block hRun (fence_ne_topLine _ _)
  have hFound : (Insertion.build tildeSources topLine).outcome.map
      (fun i => (i.tag, i.rendering.lines i.block)) =
        .ok (['a', '\n', 'b'], .ok [['~', '~', '~']]) := by decide +kernel
  rw [hBuild] at hFound
  obtain ⟨hTag, hLines⟩ := Prod.mk.inj (Except.ok.inj hFound)
  obtain rfl := Except.ok.inj (hRendered.symm.trans hLines)
  have hPlain : ¬ Markdown.Fence.IsTicked ['b'] := by
    rw [Markdown.Fence.isTicked_iff (by decide)]
    rintro ⟨f, ⟨⟩, -⟩
  have hTildes : ¬ Markdown.Fence.IsTicked ['~', '~', '~'] := by
    rw [Markdown.Fence.isTicked_iff (by decide)]
    rintro ⟨f, ⟨⟩, hMark⟩
    cases hMark
  refine hBlock.mpr ⟨by rw [hTag]; decide, ?_⟩
  rw [hTag]
  intro l hl
  rcases List.mem_pair.mp hl with rfl | rfl
  · exact hPlain
  · exact hTildes

/-- Whether what becomes of a command is one block. -/
def EmitsBlock (sources : Sources) (line : Text) : Prop :=
  ∀ text, (sources.run .keeping line).outcome = .ok text → text ≠ line →
    Markdown.Fence.loose.IsBlock (Text.splitOn '\n' text)

/-- What does not end the block where it should, of one rendered line. -/
theorem isBlock_of_emitsBlock {tag line : Text} (h : EmitsBlock (sourcesTagged tag line) topLine)
    (hRun : ((sourcesTagged tag line).run .keeping topLine).outcome =
      .ok (fence (line ++ ['\n']) tag)) (hLine : '\n' ∉ line) :
    tag.head? ≠ some '\x60' ∧
      ∀ l ∈ (Text.splitOn '\n' tag).tail ++ [line], ¬ Markdown.Fence.IsTicked l := by
  have hBlock := h _ hRun (fence_ne_topLine _ _)
  rw [← List.flatMap_singleton (· ++ ['\n']) line] at hBlock
  exact (Insertion.isBlock_iff (List.forall_mem_singleton.mpr hLine) tag).mp hBlock

/-- A fence of backticks in the file ends the block, and so does one in a tag; and a tag that begins
with a backtick makes the opening fence longer than the closing one. -/
theorem not_emits_block : ¬ EmitsBlock (sourcesTagged [] fenceMark) topLine ∧
    ¬ EmitsBlock (sourcesTagged ('a' :: '\n' :: fenceMark) ['x']) topLine ∧
    ¬ EmitsBlock (sourcesTagged ['\x60'] ['x']) topLine := by
  have hTicked : Markdown.Fence.IsTicked fenceMark :=
    ⟨_, ⟨[], _, Markdown.Fence.standsIn_fenceMark []⟩, rfl⟩
  refine ⟨fun h => ?_, fun h => ?_, fun h => ?_⟩
  · have hInner := (isBlock_of_emitsBlock h (by decide +kernel) (by decide)).2
    exact hInner fenceMark (by simp) hTicked
  · have hInner := (isBlock_of_emitsBlock h (by decide +kernel) (by decide)).2
    exact hInner fenceMark (by decide) hTicked
  · exact (isBlock_of_emitsBlock h (by decide +kernel) (by decide)).1 rfl

end Excerpt
