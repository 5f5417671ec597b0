import Excerpt.Proofs.Insertion.Announcement

/-!
# The limits of numbers and files

A command line becomes a text, or it ends with one of two faults: something in it is malformed, or
columns are to be edited that a line does not have. That is so unless it goes past a limit of the
numbers and files that the program works with. There are six ways to do that: by a numeral in the
command, by a name that no path may have, by the bounds of a marker, by a file that breaks off while
a marker is looked for, by the announcement of a range that cannot be put into words, and by an
indentation that cannot be made.

* `GoesTooFar`: the six ways.
* `Insertion.exists_build_limit_iff`: those of reading a command and its block.
* `run_closed_iff`: the lines that become a text or end with one of the two faults.
* `run_beyond_limits`: four lines that do not.
-/

namespace Excerpt

variable {sources : Sources} {recorder : Recorder} {line : Text}

/-! ## Reading a block -/

/-- Whether the fault is that of a limit which is met before a block is rendered. -/
def Fault.IsEarlyLimit (fault : Fault) : Prop := fault.kind = .value ∨ fault.IsSystem

/-- Whether the fault is that of a limit. -/
def Fault.IsLimit (fault : Fault) : Prop :=
  fault.kind = .value ∨ fault.kind = .overflow ∨ fault.IsSystem

theorem Fault.IsEarlyLimit.isLimit {fault : Fault} (h : fault.IsEarlyLimit) : fault.IsLimit :=
  h.imp_right .inr

theorem Fault.not_isLimit {fault : Fault}
    (h : fault.kind ∈ [FaultKind.parse, .range, .notFound]) : ¬ fault.IsLimit := by
  rintro (hKind | hKind | ⟨label, hKind⟩) <;> simp [hKind] at h

theorem CodeBlock.exists_read_limit_iff {disk : Disk} {path : Path} {range : LineRange} :
    (∃ fault, fault.IsEarlyLimit ∧ read disk path range = .error fault) ↔
      '\x00' ∈ path.toText := by
  rw [← Disk.feed?_eq_nullCharacter_iff (d := disk)]
  have hNotFound {fault : Fault} (h : fault.kind = .notFound) : ¬ fault.IsEarlyLimit :=
    fun hLimit => Fault.not_isLimit (by simp [h]) hLimit.isLimit
  unfold read
  cases disk.feed? path with
  | error e =>
    cases e with
    | nullCharacter => exact iff_of_true ⟨_, .inl rfl, rfl⟩ rfl
    | system cause =>
      refine iff_of_false ?_ nofun
      rintro ⟨_, hLimit, ⟨⟩⟩
      exact hNotFound rfl hLimit
  | ok feed =>
    refine iff_of_false ?_ nofun
    rintro ⟨fault, hLimit, h⟩
    dsimp only at h
    split at h
    · rename_i flaw _
      cases h
      cases flaw <;> exact hNotFound rfl hLimit
    · cases h

namespace Insertion

/-- Whether the marker that a command names goes past what can be read or named. -/
def MarkerGoesTooFar (sources : Sources) (c : Command) : Prop :=
  ∃ id feed n m, c.address = .block id ∧
    sources.disk.feed? (c.sourcePath sources.root) = .ok feed ∧
    Marker.IsFirst id 1 feed.lines n m ∧ m.IsBeyond n

/-- Whether the file of a command breaks off before the marker that it names is met. -/
def SourceBreaksOff (sources : Sources) (c : Command) : Prop :=
  ∃ id, c.address = .block id ∧ Marker.BreaksOff sources.disk (c.sourcePath sources.root) id

theorem exists_locate_limit_iff {disk : Disk} {path : Path} {id : Text} :
    (∃ fault, fault.IsEarlyLimit ∧ (Marker.locate disk path id).outcome = .error fault) ↔
      '\x00' ∈ path.toText ∨
        (∃ feed n m, disk.feed? path = .ok feed ∧ Marker.IsFirst id 1 feed.lines n m ∧
          m.IsBeyond n) ∨ Marker.BreaksOff disk path id := by
  rw [← or_assoc, ← Marker.exists_locate_value_iff, ← Marker.exists_locate_system_iff,
    ← exists_or]
  exact exists_congr fun fault => or_and_right

theorem exists_fetch_limit_iff {c : Command} :
    (∃ fault, fault.IsEarlyLimit ∧ (fetch sources c).outcome = .error fault) ↔
      '\x00' ∈ (c.sourcePath sources.root).toText ∨ MarkerGoesTooFar sources c ∨
        SourceBreaksOff sources c := by
  obtain ⟨name, range | id, suffixes⟩ := c
  · -- the lines are given by number, so only reading them is left
    have hFetch : (fetch sources ⟨name, .lines range, suffixes⟩).outcome =
        CodeBlock.read sources.disk (sources.root.join (Path.ofText name)) range := by
      rw [outcome_fetch]
      rfl
    rw [hFetch, CodeBlock.exists_read_limit_iff]
    refine (or_iff_left ?_).symm
    rintro (⟨_, _, _, _, ⟨⟩, -⟩ | ⟨_, ⟨⟩, -⟩)
  · have hLocate : (∃ fault, fault.IsEarlyLimit ∧
        (Marker.locate sources.disk (sources.root.join (Path.ofText name)) id).outcome =
          .error fault) ↔ _ := exists_locate_limit_iff
    have hMarker : MarkerGoesTooFar sources ⟨name, .block id, suffixes⟩ ↔
        ∃ feed n m, sources.disk.feed? (sources.root.join (Path.ofText name)) = .ok feed ∧
          Marker.IsFirst id 1 feed.lines n m ∧ m.IsBeyond n := by
      constructor
      · rintro ⟨_, feed, n, m, ⟨⟩, h⟩
        exact ⟨feed, n, m, h⟩
      · rintro ⟨feed, n, m, h⟩
        exact ⟨id, feed, n, m, rfl, h⟩
    have hSource : SourceBreaksOff sources ⟨name, .block id, suffixes⟩ ↔
        Marker.BreaksOff sources.disk (sources.root.join (Path.ofText name)) id := by
      constructor
      · rintro ⟨_, ⟨⟩, h⟩
        exact h
      · exact fun h => ⟨id, rfl, h⟩
    rw [hMarker, hSource]
    refine Iff.trans ?_ hLocate
    simp only [outcome_fetch, bind_eq_error_iff]
    constructor
    · rintro ⟨fault, hLimit, h | ⟨range, -, h⟩⟩
      · exact ⟨fault, hLimit, h⟩
      · exact hLocate.mpr (.inl (CodeBlock.exists_read_limit_iff.mp ⟨fault, hLimit, h⟩))
    · rintro ⟨fault, hLimit, h⟩
      exact ⟨fault, hLimit, .inl h⟩

end Insertion

/-! ## The limits -/

/-- The ways in which a command line goes past a limit. -/
inductive GoesTooFar (sources : Sources) (recorder : Recorder) (line : Text) : Prop
  -- what is written cannot be read for a numeral of too many digits
  | numeral {fault : Fault} (hWritten : Command.written line = .error fault)
      (hKind : fault.kind = .value) (hRun : line.HasLongRun)
  -- the path of the file has a character that no path may have
  | path {c : Command} {wanted : Instructions} (hWritten : Command.written line = .ok (c, wanted))
      (hNull : '\x00' ∈ (c.sourcePath sources.root).toText)
  -- the marker of the block has bounds that cannot be read or named
  | marker {c : Command} {wanted : Instructions} (hWritten : Command.written line = .ok (c, wanted))
      (hMarker : Insertion.MarkerGoesTooFar sources c)
  -- the file breaks off before the marker of the block is met
  | source {c : Command} {wanted : Instructions} (hWritten : Command.written line = .ok (c, wanted))
      (hSource : Insertion.SourceBreaksOff sources c)
  -- the block ends on a line whose number cannot be put into words, and that is asked for
  | announcement {insertion : Insertion}
      (hBuild : (Insertion.build sources line).outcome = .ok insertion)
      (hRecorder : recorder = .wording) (hLast : numberBound ≤ insertion.block.range.last)
  -- the first line that cannot be rendered is indented by more spaces than can be counted
  | indentation {insertion : Insertion}
      (hBuild : (Insertion.build sources line).outcome = .ok insertion)
      (hHeard : insertion.IsHeard recorder)
      (hRefuses : insertion.rendering.RefusesFirst insertion.block .sizeTooLarge)

theorem Insertion.exists_build_limit_iff :
    (∃ fault, fault.IsEarlyLimit ∧ (build sources line).outcome = .error fault) ↔
      (∃ fault, fault.kind = .value ∧ Command.written line = .error fault) ∨
        ∃ c wanted, Command.written line = .ok (c, wanted) ∧
          ('\x00' ∈ (c.sourcePath sources.root).toText ∨ MarkerGoesTooFar sources c ∨
            SourceBreaksOff sources c) := by
  rw [outcome_build]
  cases hWritten : Command.written line with
  | error fault =>
    constructor
    · rintro ⟨_, hLimit, ⟨⟩⟩
      have hWriting := (Command.failsBy_written line fault hWritten).isWriting
      refine .inl ⟨fault, hWriting.resolve_left fun hParse => ?_, rfl⟩
      exact Fault.not_isLimit (by simp [hParse]) hLimit.isLimit
    · rintro (⟨_, hKind, ⟨⟩⟩ | ⟨_, _, ⟨⟩, -⟩)
      exact ⟨fault, .inl hKind, rfl⟩
  | ok pair =>
    obtain ⟨c, wanted⟩ := pair
    have hFetch : (∃ fault, fault.IsEarlyLimit ∧
        (fetch sources c).outcome.map (assemble sources c wanted) = .error fault) ↔
          '\x00' ∈ (c.sourcePath sources.root).toText ∨ MarkerGoesTooFar sources c ∨
            SourceBreaksOff sources c := by
      simp only [map_eq_error_iff]
      exact exists_fetch_limit_iff
    refine hFetch.trans ?_
    constructor
    · exact fun h => .inr ⟨c, wanted, rfl, h⟩
    · rintro (⟨_, -, ⟨⟩⟩ | ⟨_, _, ⟨⟩, h⟩)
      exact h

theorem Insertion.isHeard_iff {i : Insertion} :
    i.IsHeard recorder ↔ ¬ (recorder = .wording ∧ numberBound ≤ i.block.range.last) := by
  unfold IsHeard
  rw [Recorder.refusal?_inserted]
  by_cases h : recorder = .wording ∧ numberBound ≤ i.block.range.last
  · rw [if_pos h]
    exact iff_of_false nofun (not_not.mpr h)
  · rw [if_neg h]
    exact iff_of_true rfl h

/-- A limit is met while the command and its block are read, or behind that. -/
theorem goesTooFar_iff : GoesTooFar sources recorder line ↔
    (∃ fault, fault.IsEarlyLimit ∧ (Insertion.build sources line).outcome = .error fault) ∨
      ∃ insertion, (Insertion.build sources line).outcome = .ok insertion ∧
        (insertion.IsHeard recorder →
          insertion.rendering.RefusesFirst insertion.block .sizeTooLarge) := by
  rw [Insertion.exists_build_limit_iff]
  constructor
  · intro h
    cases h with
    | numeral hWritten hKind hRun => exact .inl (.inl ⟨_, hKind, hWritten⟩)
    | path hWritten hNull => exact .inl (.inr ⟨_, _, hWritten, .inl hNull⟩)
    | marker hWritten hMarker => exact .inl (.inr ⟨_, _, hWritten, .inr (.inl hMarker)⟩)
    | source hWritten hSource => exact .inl (.inr ⟨_, _, hWritten, .inr (.inr hSource)⟩)
    | announcement hBuild hRecorder hLast =>
      refine .inr ⟨_, hBuild, fun hHeard => ?_⟩
      exact absurd ⟨hRecorder, hLast⟩ (Insertion.isHeard_iff.mp hHeard)
    | indentation hBuild hHeard hRefuses => exact .inr ⟨_, hBuild, fun _ => hRefuses⟩
  · rintro ((⟨fault, hKind, hWritten⟩ | ⟨c, wanted, hWritten, hNull | hMarker | hSource⟩) |
      ⟨insertion, hBuild, hRefuses⟩)
    · have hOf := Command.failsBy_written line fault hWritten
      exact .numeral hWritten hKind (hOf.resolve_left (by simp [hKind])).2
    · exact .path hWritten hNull
    · exact .marker hWritten hMarker
    · exact .source hWritten hSource
    · by_cases hHeard : insertion.IsHeard recorder
      · exact .indentation hBuild hHeard (hRefuses hHeard)
      · obtain ⟨hRecorder, hLast⟩ := not_not.mp (mt Insertion.isHeard_iff.mpr hHeard)
        exact .announcement hBuild hRecorder hLast

/-! ## Runs -/

/-- A line that is no command is malformed as one. -/
theorem Insertion.build_of_not_command (sources : Sources) (hLine : isCommandLine line = false) :
    ∃ fault, fault.kind = .parse ∧ (build sources line).outcome = .error fault := by
  cases hHead : CommandHead.read line with
  | error fault =>
    have hParse : Command.parse line = .error fault := by
      rw [Command.parse_eq, hHead]
      rfl
    exact ⟨fault, CommandHead.failsBy_read line fault hHead, outcome_build_of_error _ hParse⟩
  | ok head =>
    rw [isCommandLine, CommandKind.ofLine?_of_read hHead] at hLine
    cases hLine

/-- Of the faults of rendering, one is that of an indentation. -/
theorem Insertion.fenced_eq_sizeTooLarge_iff {i : Insertion} :
    i.rendering.RefusesFirst i.block .sizeTooLarge ↔
      ∃ fault, i.fenced = .error fault ∧ fault.IsLimit := by
  unfold fenced text
  simp only [map_eq_error_iff, Rendering.text_eq_error_iff]
  constructor
  · exact fun h => ⟨_, h, .inr (.inl rfl)⟩
  · rintro ⟨fault, hFirst, hLimit⟩
    obtain ⟨_, _, _, _, -, -, hRefuses⟩ := id hFirst
    cases hRefuses with
    | columns => exact absurd hLimit (Fault.not_isLimit (by simp [Fault.kind]))
    | indent => exact hFirst

/-- A run ends with a fault of another kind exactly if its line goes too far. -/
theorem exists_run_limit_iff (sources : Sources) (recorder : Recorder) (line : Text) :
    (∃ fault, (sources.run recorder line).outcome = .error fault ∧ fault.IsLimit) ↔
      GoesTooFar sources recorder line := by
  rw [goesTooFar_iff]
  cases hLine : isCommandLine line with
  | false =>
    obtain ⟨fault, hKind, hBuild⟩ := Insertion.build_of_not_command sources hLine
    rw [sources.run_of_not_command recorder hLine, hBuild]
    refine iff_of_false nofun ?_
    rintro (⟨_, hLimit, ⟨⟩⟩ | ⟨_, ⟨⟩, -⟩)
    exact Fault.not_isLimit (by simp [hKind]) hLimit.isLimit
  | true =>
    have hRun := sources.run_cases recorder hLine
    generalize sources.run recorder line = run at hRun ⊢
    cases hRun with
    | @kept keyword fault hBuild hKind =>
      rw [hBuild]
      refine iff_of_false nofun ?_
      rintro (⟨_, hLimit, ⟨⟩⟩ | ⟨_, ⟨⟩, -⟩)
      exact Fault.not_isLimit (by simp [hKind]) hLimit.isLimit
    | @failed fault hBuild hKind =>
      rw [hBuild]
      constructor
      · rintro ⟨_, ⟨⟩, hLimit⟩
        refine .inl ⟨fault, ?_, rfl⟩
        rcases Insertion.kind_of_build hBuild with hFound | (hParse | hValue) | hSystem
        · exact absurd hFound hKind
        · exact absurd hLimit (Fault.not_isLimit (by simp [hParse]))
        · exact .inl hValue
        · exact .inr hSystem
      · rintro (⟨_, hLimit, ⟨⟩⟩ | ⟨_, ⟨⟩, -⟩)
        exact ⟨fault, rfl, hLimit.isLimit⟩
    | unheard hBuild hRefused =>
      refine iff_of_true ⟨_, rfl, .inl (Recorder.kind_of_refusal hRefused)⟩ (.inr ⟨_, hBuild, ?_⟩)
      intro hHeard
      cases hRefused.symm.trans hHeard
    | announced hBuild hHeard =>
      rw [hBuild, ← Insertion.fenced_eq_sizeTooLarge_iff]
      constructor
      · exact fun hRefuses => .inr ⟨_, rfl, fun _ => hRefuses⟩
      · rintro (⟨_, -, ⟨⟩⟩ | ⟨_, ⟨⟩, hRefuses⟩)
        exact hRefuses hHeard

/-- The faults of a run are those of malformed commands and of missing columns, and those of the
limits. -/
theorem kind_of_run {fault : Fault} (h : (sources.run recorder line).outcome = .error fault) :
    (fault.kind = .parse ∨ fault.kind = .range) ∨ fault.IsLimit := by
  obtain ⟨insertion, -, -, hRun⟩ | ⟨-, hSilent⟩ := sources.run_announced_or_silent recorder line
  · rw [hRun] at h
    exact (Insertion.kind_of_fenced h).imp .inr fun hKind => .inr (.inl hKind)
  · rcases hSilent.failsBy fault h with (hParse | hValue) | hSystem
    · exact .inl (.inl hParse)
    · exact .inr (.inl hValue)
    · exact .inr (.inr (.inr hSystem))

/-- A line becomes a text, or is malformed, or asks for columns that are not there, exactly if it
does not go past a limit. If it does, a fault of another kind ends its run. -/
theorem run_closed_iff (sources : Sources) (recorder : Recorder) (line : Text) :
    (((∃ text, (sources.run recorder line).outcome = .ok text) ∨
        ∃ fault, (sources.run recorder line).outcome = .error fault ∧
          (fault.kind = .parse ∨ fault.kind = .range)) ↔ ¬ GoesTooFar sources recorder line) ∧
    (GoesTooFar sources recorder line ↔
      ∃ fault, (sources.run recorder line).outcome = .error fault ∧
        (fault.kind = .value ∨ fault.kind = .overflow ∨ ∃ label, fault.kind = .system label)) := by
  rw [← exists_run_limit_iff]
  refine ⟨?_, Iff.rfl⟩
  cases hOutcome : (sources.run recorder line).outcome with
  | ok text => exact iff_of_true (.inl ⟨text, rfl⟩) nofun
  | error fault =>
    constructor
    · rintro (⟨_, ⟨⟩⟩ | ⟨_, ⟨⟩, hKind⟩) ⟨_, ⟨⟩, hLimit⟩
      exact Fault.not_isLimit (by rcases hKind with h | h <;> simp [h]) hLimit
    · intro hNear
      refine .inr ⟨fault, rfl, (kind_of_run hOutcome).resolve_right fun hLimit => ?_⟩
      exact hNear ⟨fault, rfl, hLimit⟩

/-! ## Lines that go too far -/

/-- A command for the line whose number is a run of one digit more than can be read. -/
def longNumeral : Text :=
  CommandKind.direct.keyword ++ ['(', 'f', ':'] ++ List.replicate 4301 '1' ++ [')']

/-- A command whose file name is a null character. -/
def nullName : Text := "insert_code(\x00:1)".toList

/-- A command that asks for more spaces than can be counted. -/
def wideIndent : Text := "insert_code(f:1)[indent=9223372036854775808]".toList

/-- What the system reports of a device that cannot be read. -/
def deviceError : SystemError := .other 5 "OSError" "Input/output error"

/-- One file that can be opened, and nothing of it can be read. -/
def unreadableSources : Sources where
  disk :=
    { entries := [([['f']], .file [])]
      home := []
      medium := { reading := fun _ _ => .ok ⟨[], some deviceError⟩ } }

/-- None of them becomes a text, is refused as malformed or asks for columns that are not there. -/
theorem run_beyond_limits :
    ((sourcesWith ['x', '\n']).run .keeping longNumeral).outcome = .error (.numeralTooLong 4301) ∧
    ((sourcesWith ['x', '\n']).run .keeping nullName).outcome = .error .nullCharacter ∧
    ((sourcesWith ['x', '\n']).run .keeping wideIndent).outcome = .error .sizeTooLarge ∧
    (unreadableSources.run .keeping markerCommand).outcome = .error (.brokenOff deviceError) ∧
    ∀ fault ∈ [Fault.numeralTooLong 4301, .nullCharacter, .sizeTooLarge, .brokenOff deviceError],
      fault.kind ≠ .parse ∧ fault.kind ≠ .range := by
  refine ⟨?_, ?_, ?_, ?_, by decide⟩
  · decide +kernel
  · decide +kernel
  · decide +kernel
  · decide +kernel

end Excerpt
