import Excerpt.Proofs.Insertion.Malformed

/-!
# The announcement of an insertion

An insertion is announced when its command has been read and its block has been found, and only then
is the block rendered. So an announcement is followed by a fenced block unless the block cannot be
rendered; nothing that goes wrong before that is ever announced as inserted.

* `Insertion.kind_of_build`: the kinds of faults before an announcement.
* `Sources.run_announced_or_silent`: a line is announced and rendered, or nothing comes of it.
* `run_announces`: announced is what is inserted, and what cannot be rendered.
* `run_announces_farColumns`: a block that is announced and cannot be rendered.
-/

namespace Excerpt

variable {sources : Sources} {recorder : Recorder} {line : Text} {run : Journal Text}

/-! ## Announced and inserted -/

/-- Whether the event of an insertion is told. -/
def Announces (run : Journal Text) : Prop :=
  ∃ n ∈ run.notices, n.eventName? = some Diagnostic.insertedName

/-- Whether a command line comes to be a fenced block. -/
def IsFenced (line : Text) (run : Journal Text) : Prop :=
  isCommandLine line = true ∧ ∃ body tag, run.outcome = .ok (fence body tag)

/-- A block with a line that cannot be rendered. -/
def Insertion.IsRefused (i : Insertion) : Prop :=
  ∃ p ∈ i.block.numbered, ∃ fault, i.rendering.Refuses i.block p.1 p.2 fault

theorem Insertion.isRefused_iff {i : Insertion} :
    i.IsRefused ↔ ∃ fault, i.fenced = .error fault := by
  unfold IsRefused fenced
  simp only [map_eq_error_iff]
  exact Rendering.exists_text_error_iff.symm

theorem isCommandLine_fence (body tag : Text) : isCommandLine (fence body tag) = false := by
  simp [isCommandLine, CommandKind.ofLine?, CommandKind.keyword, fence, fenceMark]

theorem not_announces_remarks (outcome : Except Fault Text) :
    ¬ Announces ⟨(Insertion.build sources line).notices, outcome⟩ := by
  rintro ⟨n, hn, hName⟩
  rw [Notice.eventName?_of_isRemark (Insertion.tells_build sources line n hn)] at hName
  cases hName

/-! ## Faults before and behind the announcement -/

namespace Insertion

variable {fault : Fault}

theorem kind_of_fetch {c : Command} (h : (fetch sources c).outcome = .error fault) :
    fault.kind = .notFound ∨ fault.IsWriting ∨ fault.IsSystem := by
  rw [outcome_fetch] at h
  rcases bind_eq_error_iff.mp h with h | ⟨range, -, h⟩
  · unfold resolve at h
    split at h
    · cases h
    · exact Marker.kind_of_locate h
  · exact (CodeBlock.kind_of_read h).imp_right fun hKind => .inl (.inr hKind)

/-- Before its block is rendered, a command fails by what is written, by what is not found, or by a
file that breaks off. -/
theorem kind_of_build (h : (build sources line).outcome = .error fault) :
    fault.kind = .notFound ∨ fault.IsWriting ∨ fault.IsSystem := by
  rw [outcome_build] at h
  rcases bind_eq_error_iff.mp h with h | ⟨_, -, h⟩
  · exact .inr (.inl (Command.failsBy_written line fault h).isWriting)
  · exact kind_of_fetch (map_eq_error_iff.mp h)

end Insertion

/-! ## Announced and inserted, or neither -/

theorem Insertion.isCommandLine_of_build {insertion : Insertion}
    (h : (build sources line).outcome = .ok insertion) : isCommandLine line = true := by
  rw [outcome_build] at h
  obtain ⟨⟨c, wanted⟩, hWritten, -⟩ := bind_eq_ok_iff.mp h
  obtain ⟨hParse, -⟩ := Command.written_eq_ok_iff.mp hWritten
  rw [isCommandLine, CommandKind.ofLine?_of_parse hParse, Option.isSome_some]

/-- A run without an announcement inserts nothing, and if it fails it fails by what is written or by
a file that breaks off. -/
structure IsSilent (line : Text) (run : Journal Text) : Prop where
  not_announces : ¬ Announces run
  not_isFenced : ¬ IsFenced line run
  failsBy : FailsBy (fun fault => fault.IsWriting ∨ fault.IsSystem) run.outcome

/-- A line is announced and then rendered, or nothing comes of it. -/
theorem Sources.run_announced_or_silent (sources : Sources) (recorder : Recorder) (line : Text) :
    (∃ insertion, (Insertion.build sources line).outcome = .ok insertion ∧
      insertion.IsHeard recorder ∧ sources.run recorder line =
        ⟨(Insertion.build sources line).notices ++
          [.inserted insertion.source insertion.block.range], insertion.fenced⟩) ∨
    ((¬ ∃ insertion, (Insertion.build sources line).outcome = .ok insertion ∧
      insertion.IsHeard recorder) ∧ IsSilent line (sources.run recorder line)) := by
  cases hLine : isCommandLine line with
  | false =>
    rw [sources.run_of_not_command recorder hLine]
    refine .inr ⟨?_, ?_, ?_, failsBy_ok _⟩
    · rintro ⟨insertion, hBuild, -⟩
      cases hLine.symm.trans (Insertion.isCommandLine_of_build hBuild)
    · rintro ⟨_, ⟨⟩, -⟩
    · rintro ⟨hCommand, -⟩
      cases hLine.symm.trans hCommand
  | true =>
    have hRun := run_cases sources recorder hLine
    generalize sources.run recorder line = run at hRun ⊢
    cases hRun with
    | @kept keyword fault hBuild hKind =>
      refine .inr ⟨?_, ?_, ?_, failsBy_ok _⟩
      · rintro ⟨_, hOk, -⟩
        cases hBuild.symm.trans hOk
      · rintro ⟨n, hn, hName⟩
        rcases List.mem_append.mp hn with hn | hn
        · exact not_announces_remarks (.ok line) ⟨n, hn, hName⟩
        · rcases List.mem_pair.mp hn with rfl | rfl
          · cases hName
          · exact Diagnostic.insertedName_ne_skippedName (Option.some.inj hName).symm
      · rintro ⟨-, body, tag, hText⟩
        rw [Except.ok.inj hText, isCommandLine_fence] at hLine
        cases hLine
    | @failed fault hBuild hKind =>
      refine .inr ⟨?_, not_announces_remarks _, ?_, failsBy_error ?_⟩
      · rintro ⟨_, hOk, -⟩
        cases hBuild.symm.trans hOk
      · rintro ⟨-, _, _, ⟨⟩⟩
      · exact (Insertion.kind_of_build hBuild).resolve_left hKind
    | unheard hBuild hRefused =>
      refine .inr ⟨?_, not_announces_remarks _, ?_, failsBy_error ?_⟩
      · rintro ⟨_, hOk, hHeard⟩
        cases hBuild.symm.trans hOk
        cases hRefused.symm.trans hHeard
      · rintro ⟨-, _, _, ⟨⟩⟩
      · exact .inl (.inr (Recorder.kind_of_refusal hRefused))
    | announced hBuild hHeard => exact .inl ⟨_, hBuild, hHeard, rfl⟩

theorem Insertion.isFenced_iff {i : Insertion} (hLine : isCommandLine line = true)
    (h : run.outcome = i.fenced) : IsFenced line run ↔ ¬ i.IsRefused := by
  rw [isRefused_iff]
  unfold IsFenced
  rw [and_iff_right hLine, h]
  cases hText : i.fenced with
  | error fault => exact iff_of_false nofun fun hNone => hNone ⟨fault, rfl⟩
  | ok text =>
    obtain ⟨body, -, rfl⟩ := map_eq_ok_iff.mp hText
    refine iff_of_true ⟨body, i.tag, rfl⟩ ?_
    rintro ⟨_, ⟨⟩⟩

/-- What is announced is a command that comes to be a fenced block, or one that ends with a fault of
rendering. So a run that announces has a fenced block to show, and a run that fails has announced
nothing, unless a line of the block cannot be rendered. -/
theorem run_announces (sources : Sources) (recorder : Recorder) (line : Text) :
    (Announces (sources.run recorder line) ↔ IsFenced line (sources.run recorder line) ∨
      ∃ fault, (sources.run recorder line).outcome = .error fault ∧
        (fault.kind = .range ∨ fault.kind = .overflow)) ∧
    (((Announces (sources.run recorder line) ↔ IsFenced line (sources.run recorder line)) ∧
        ∀ fault, (sources.run recorder line).outcome = .error fault →
          ¬ Announces (sources.run recorder line)) ↔
      ¬ ∃ insertion, (Insertion.build sources line).outcome = .ok insertion ∧
        insertion.IsHeard recorder ∧ insertion.IsRefused) := by
  obtain ⟨insertion, hBuild, hHeard, hRun⟩ | ⟨hNone, hSilent⟩ :=
    sources.run_announced_or_silent recorder line
  · have hAnnounces : Announces (sources.run recorder line) := by
      rw [hRun]
      exact ⟨_, List.mem_append_right _ (List.mem_singleton_self _), rfl⟩
    have hOutcome : (sources.run recorder line).outcome = insertion.fenced := by rw [hRun]
    have hFenced := Insertion.isFenced_iff (Insertion.isCommandLine_of_build hBuild) hOutcome
    have hBuilt : (∃ other, (Insertion.build sources line).outcome = .ok other ∧
        other.IsHeard recorder ∧ other.IsRefused) ↔ insertion.IsRefused := by
      rw [hBuild]
      simp only [Except.ok.injEq, exists_eq_left', hHeard, true_and]
    rw [hBuilt, hFenced, hOutcome]
    constructor
    · refine iff_of_true hAnnounces ?_
      by_cases hRefused : insertion.IsRefused
      · obtain ⟨fault, hFault⟩ := Insertion.isRefused_iff.mp hRefused
        exact .inr ⟨fault, hFault, Insertion.kind_of_fenced hFault⟩
      · exact .inl hRefused
    · constructor
      · exact fun h => h.1.mp hAnnounces
      · intro hRendered
        refine ⟨iff_of_true hAnnounces hRendered, fun fault hFault => ?_⟩
        exact absurd (Insertion.isRefused_iff.mpr ⟨fault, hFault⟩) hRendered
  · constructor
    · refine iff_of_false hSilent.not_announces ?_
      rintro (hFenced | ⟨fault, hFault, hRendering⟩)
      · exact hSilent.not_isFenced hFenced
      · rcases hSilent.failsBy fault hFault with (hKind | hKind) | ⟨label, hKind⟩ <;>
          simp [hKind] at hRendering
    · refine iff_of_true ⟨iff_of_false hSilent.not_announces hSilent.not_isFenced, ?_⟩ ?_
      · exact fun _ _ => hSilent.not_announces
      · rintro ⟨insertion, hBuild, hHeard, -⟩
        exact hNone ⟨insertion, hBuild, hHeard⟩

/-- A command that hides columns of the first line of a file. -/
def farColumns : Text := "insert_code(f:1)<h1:1-9>".toList

/-- The line has one column only: it is announced, and then it cannot be rendered. -/
theorem run_announces_farColumns :
    Announces ((sourcesWith ['x', '\n']).run .keeping farColumns) ∧
    ¬ IsFenced farColumns ((sourcesWith ['x', '\n']).run .keeping farColumns) ∧
    ((sourcesWith ['x', '\n']).run .keeping farColumns).outcome =
      .error (.columnsBehindLine 1 9 1 1) := by
  have hNotices : ((sourcesWith ['x', '\n']).run .keeping farColumns).notices =
      [.inserted ['f'] ⟨1, 1, by decide, by decide⟩] := by decide +kernel
  have hOutcome : ((sourcesWith ['x', '\n']).run .keeping farColumns).outcome =
      .error (.columnsBehindLine 1 9 1 1) := by decide +kernel
  refine ⟨⟨_, hNotices ▸ List.mem_singleton_self _, rfl⟩, ?_, hOutcome⟩
  rintro ⟨-, body, tag, hText⟩
  cases hOutcome.symm.trans hText

end Excerpt
