import Excerpt.Proofs.Command.Phases
import Excerpt.Proofs.Insertion.Events
import Excerpt.Proofs.Insertion.Stability
import Excerpt.Proofs.Selector.Body

/-!
# Malformed commands

All that is written in a command line is read before its file is looked for. So a malformed
command is refused in the same way on every disk, also if the file or the block is missing. A
well-formed one is refused as malformed only for a marker in its file: reading the block, bringing
the selectors onto it, telling and rendering it have faults of other kinds.

* `Command.isMalformed_iff`: the command lines of which some part cannot be read.
* `Insertion.outcome_build`: what is written is read first, then the block is fetched.
* `outcome_run_eq_error_iff`: where a fault of that kind comes from.
* `expandLine_malformed`: malformed commands, whatever the disk.
-/

namespace Excerpt

/-! ## What is written in a command line -/

/-- Reads all that is written in a command line. -/
def Command.written (line : Text) : Except Fault (Command × Instructions) :=
  parse line >>= fun c => c.suffixes.read.outcome.map fun wanted => (c, wanted)

/-- Whether some part of a command line is malformed: its head with the brackets behind it, what its
options say, or one of its selectors. -/
inductive Command.IsMalformed (line : Text) : Prop
  | head {fault : Fault} (h : parse line = .error fault)
  | options {c : Command} {fault : Fault} (hParse : parse line = .ok c)
      (h : (RenderOptions.read c.suffixes.options).outcome = .error fault)
  | highlights {c : Command} {fault : Fault} (hParse : parse line = .ok c)
      (h : readHighlights c.suffixes.highlight = .error fault)
  | edits {c : Command} {fault : Fault} (hParse : parse line = .ok c)
      (h : (readEdits c.suffixes.edit).outcome = .error fault)

theorem Suffixes.outcome_read (s : Suffixes) : s.read.outcome =
    (RenderOptions.read s.options).outcome >>= fun options =>
      readHighlights s.highlight >>= fun highlights =>
        (readEdits s.edit).outcome.map fun edits => ⟨options, highlights, edits⟩ := by
  unfold Suffixes.read
  simp only [Journal.outcome_bind, Journal.outcome_lift, Journal.outcome_pure]
  rfl

namespace Command

variable {line : Text}

theorem written_eq_ok_iff {c : Command} {wanted : Instructions} :
    written line = .ok (c, wanted) ↔ parse line = .ok c ∧
      (RenderOptions.read c.suffixes.options).outcome = .ok wanted.options ∧
      readHighlights c.suffixes.highlight = .ok wanted.highlights ∧
      (readEdits c.suffixes.edit).outcome = .ok wanted.edits := by
  simp only [written, bind_eq_ok_iff, map_eq_ok_iff, Suffixes.outcome_read]
  constructor
  · rintro ⟨_, hParse, _, ⟨options, hOptions, highlights, hHighlights, edits, hEdits, rfl⟩, ⟨⟩⟩
    exact ⟨hParse, hOptions, hHighlights, hEdits⟩
  · rintro ⟨hParse, hOptions, hHighlights, hEdits⟩
    exact ⟨c, hParse, wanted, ⟨_, hOptions, _, hHighlights, _, hEdits, rfl⟩, rfl⟩

theorem isMalformed_iff : IsMalformed line ↔ ∃ fault, written line = .error fault := by
  constructor
  · intro h
    cases hWritten : written line with
    | error fault => exact ⟨fault, rfl⟩
    | ok pair =>
      obtain ⟨hOk, hOptions, hHighlights, hEdits⟩ := written_eq_ok_iff.mp hWritten
      cases h with
      | head h => cases h.symm.trans hOk
      | options hParse h =>
        cases hParse.symm.trans hOk
        cases h.symm.trans hOptions
      | highlights hParse h =>
        cases hParse.symm.trans hOk
        cases h.symm.trans hHighlights
      | edits hParse h =>
        cases hParse.symm.trans hOk
        cases h.symm.trans hEdits
  · rintro ⟨fault, h⟩
    rcases bind_eq_error_iff.mp h with h | ⟨c, hParse, h⟩
    · exact .head h
    · rw [map_eq_error_iff, Suffixes.outcome_read] at h
      rcases bind_eq_error_iff.mp h with h | ⟨options, -, h⟩
      · exact .options hParse h
      · rcases bind_eq_error_iff.mp h with h | ⟨highlights, -, h⟩
        · exact .highlights hParse h
        · exact .edits hParse (map_eq_error_iff.mp h)

/-- Without a number of too many digits, what is malformed is refused as that. -/
theorem failsBy_written (line : Text) : FailsBy (Fault.IsOf · line) (written line) := by
  refine failsBy_bind (failsBy_parse line) fun c hParse => failsBy_map ?_ _
  exact failsBy_readSuffixes fun p hp => infix_of_parse hParse hp

end Command

/-! ## Faults behind what is written -/

theorem CodeBlock.kind_of_read {disk : Disk} {path : Path} {range : LineRange} {fault : Fault}
    (h : CodeBlock.read disk path range = .error fault) :
    fault.kind = .notFound ∨ fault.kind = .value := by
  unfold CodeBlock.read at h
  split at h
  · rename_i e _
    cases h
    cases e with
    | nullCharacter => exact .inr rfl
    | system cause => exact .inl rfl
  · split at h
    · rename_i flaw _
      cases h
      cases flaw <;> exact .inl rfl
    · cases h

namespace Insertion

variable {sources : Sources} {line : Text} {fault : Fault} {recorder : Recorder}

theorem outcome_build (sources : Sources) (line : Text) : (build sources line).outcome =
    Command.written line >>= fun (c, wanted) =>
      (fetch sources c).outcome.map (assemble sources c wanted) := by
  unfold Command.written
  cases hParse : Command.parse line with
  | error fault => exact outcome_build_of_error sources hParse
  | ok c =>
    rw [outcome_build_of_parse sources hParse]
    change _ = (c.suffixes.read.outcome.map _ >>= _)
    cases c.suffixes.read.outcome <;> rfl

/-- What a recorder or a rendering refuses is not how something is written. -/
theorem kind_of_toldTo {i : Insertion} (h : i.toldTo recorder = .error fault) :
    fault.kind ≠ .parse := by
  unfold toldTo at h
  split at h
  · rename_i hRefused
    cases h
    rw [Recorder.kind_of_refusal hRefused]
    decide
  · rcases kind_of_fenced h with hKind | hKind
    · rw [hKind]
      decide
    · rw [hKind]
      decide

theorem settle_eq_error_iff (hKind : fault.kind = .parse) {x : Except Fault Insertion} :
    settle recorder line x = .error fault ↔ x = .error fault := by
  cases x with
  | ok i => exact iff_of_false (fun h => kind_of_toldTo h hKind) nofun
  | error other =>
    change (if other.kind = .notFound then _ else _) = _ ↔ _
    by_cases hFound : other.kind = .notFound
    · rw [if_pos hFound]
      refine iff_of_false nofun ?_
      rintro ⟨⟩
      cases hKind.symm.trans hFound
    · rw [if_neg hFound]
      simp only [Except.error.injEq]

/-- Only looking for the lines of a block can meet something malformed. -/
theorem fetch_eq_error_iff (hKind : fault.kind = .parse) (c : Command) :
    (fetch sources c).outcome = .error fault ↔ (resolve sources c).outcome = .error fault := by
  rw [outcome_fetch, bind_eq_error_iff]
  refine or_iff_left ?_
  rintro ⟨range, -, hRead⟩
  rcases CodeBlock.kind_of_read hRead with hFound | hValue
  · cases hKind.symm.trans hFound
  · cases hKind.symm.trans hValue

end Insertion

section

variable {sources : Sources} {line : Text} {fault : Fault} {recorder : Recorder}

/-- A fault of how something is written is one of reading the command and its block. -/
theorem outcome_run_iff_build (hLine : isCommandLine line = true)
    (hKind : fault.kind = .parse) :
    (sources.run recorder line).outcome = .error fault ↔
      (Insertion.build sources line).outcome = .error fault := by
  obtain ⟨kind, hOfLine⟩ := Option.isSome_iff_exists.mp hLine
  rw [outcome_run sources hOfLine]
  exact Insertion.settle_eq_error_iff hKind

/-- It comes from what is written in the line itself, or from looking for the lines of its block. -/
theorem outcome_run_eq_error_iff (hLine : isCommandLine line = true)
    (hKind : fault.kind = .parse) :
    (sources.run recorder line).outcome = .error fault ↔
      Command.written line = .error fault ∨ ∃ c wanted, Command.written line = .ok (c, wanted) ∧
        (Insertion.resolve sources c).outcome = .error fault := by
  rw [outcome_run_iff_build hLine hKind, Insertion.outcome_build, bind_eq_error_iff]
  simp only [map_eq_error_iff, Insertion.fetch_eq_error_iff hKind, Prod.exists]

/-- Before a run ends with such a fault it has told no event. -/
theorem not_isEvent_of_parse (hKind : fault.kind = .parse)
    (h : (sources.run recorder line).outcome = .error fault) {n : Notice}
    (hn : n ∈ (sources.run recorder line).notices) : n.isEvent = false := by
  have hLine : isCommandLine line = true := by
    by_contra hLine
    rw [sources.run_of_not_command recorder (Bool.not_eq_true _ ▸ hLine)] at h
    cases h
  have hBuild := (outcome_run_iff_build hLine hKind).mp h
  have hRun := sources.run_cases recorder hLine
  generalize sources.run recorder line = run at hRun hn
  cases hRun with
  | kept hOther hFound =>
    cases hBuild.symm.trans hOther
    cases hKind.symm.trans hFound
  | failed hOther hNotFound =>
    simp [Notice.isEvent, Notice.eventName?_of_isRemark (Insertion.tells_build _ _ n hn)]
  | unheard hOther hRefused => cases hBuild.symm.trans hOther
  | announced hOther hHeard => cases hBuild.symm.trans hOther

/-! ## Malformed commands on every disk -/

/-- The run of a line in front of a recorder, on a disk. -/
def expandOn (root : Path) (languages : LanguageTable) (recorder : Recorder) (line : Text)
    (disk : Disk) : Journal Text :=
  Sources.run ⟨disk, root, languages⟩ recorder line

/-- A command line by number meets nothing malformed outside of what is written in it. -/
theorem outcome_expandOn_direct {root : Path} {languages : LanguageTable} {disk : Disk}
    (hLine : CommandKind.ofLine? line = some .direct) (hKind : fault.kind = .parse) :
    (expandOn root languages recorder line disk).outcome = .error fault ↔
      Command.written line = .error fault := by
  have hCommand : isCommandLine line = true := by rw [isCommandLine, hLine, Option.isSome_some]
  refine (outcome_run_eq_error_iff hCommand hKind).trans (or_iff_left ?_)
  rintro ⟨c, wanted, hWritten, hResolve⟩
  obtain ⟨hParse, -⟩ := Command.written_eq_ok_iff.mp hWritten
  have hDirect := (CommandKind.ofLine?_of_parse hParse).symm.trans hLine
  obtain ⟨name, _ | id, suffixes⟩ := c
  · cases hResolve
  · cases hDirect

/-- A well-formed command line by marker meets nothing malformed but the bounds of the marker. -/
theorem exists_outcome_expandOn_marker {root : Path} {languages : LanguageTable} {disk : Disk}
    {name id : Text} {suffixes : Suffixes} {wanted : Instructions}
    (hWritten : Command.written line = .ok (⟨name, .block id, suffixes⟩, wanted)) :
    (∃ fault, fault.kind = .parse ∧
        (expandOn root languages recorder line disk).outcome = .error fault) ↔
      ∃ feed n m, disk.feed? (root.join (Path.ofText name)) = .ok feed ∧
        Marker.IsFirst id 1 feed.lines n m ∧ m.IsFaulty n := by
  obtain ⟨hParse, -⟩ := Command.written_eq_ok_iff.mp hWritten
  have hCommand : isCommandLine line = true := by
    rw [isCommandLine, CommandKind.ofLine?_of_parse hParse, Option.isSome_some]
  have hOutcome {fault : Fault} (hKind : fault.kind = .parse) :
      (expandOn root languages recorder line disk).outcome = .error fault ↔
        (Marker.locate disk (root.join (Path.ofText name)) id).outcome = .error fault := by
    refine (outcome_run_eq_error_iff hCommand hKind).trans ?_
    rw [hWritten]
    constructor
    · rintro (⟨⟨⟩⟩ | ⟨_, _, ⟨⟩, h⟩)
      exact h
    · exact fun h => .inr ⟨_, _, rfl, h⟩
  rw [← Marker.exists_locate_error_iff]
  exact exists_congr fun fault => and_congr_right hOutcome

/-- A command by number ends with a fault of how something is written on every disk or on none. So
does each command in which something is malformed, on every disk. A well-formed command by marker
does exactly on the disks whose first marker is at fault. Selectors can be brought onto every range,
and a run that ends so tells no event. -/
theorem expandLine_malformed (root : Path) (languages : LanguageTable) (recorder : Recorder)
    (hShort : ¬ line.HasLongRun) :
    (CommandKind.ofLine? line = some .direct → ∀ fault, fault.kind = .parse → ∀ disk disk',
      ((expandOn root languages recorder line disk).outcome = .error fault ↔
        (expandOn root languages recorder line disk').outcome = .error fault)) ∧
    (isCommandLine line = true → Command.IsMalformed line → ∃ fault, fault.kind = .parse ∧
      ∀ disk, (expandOn root languages recorder line disk).outcome = .error fault) ∧
    (CommandKind.ofLine? line = some .marker → ¬ Command.IsMalformed line →
      ∃ name id suffixes, Command.parse line = .ok ⟨name, .block id, suffixes⟩ ∧ ∀ disk,
        ((∃ fault, fault.kind = .parse ∧
            (expandOn root languages recorder line disk).outcome = .error fault) ↔
          ∃ feed n m, disk.feed? (root.join (Path.ofText name)) = .ok feed ∧
            Marker.IsFirst id 1 feed.lines n m ∧ m.IsFaulty n)) ∧
    (∀ base, (∀ h : Highlights, h.toAbsolute (some base) = .ok (h.onto base)) ∧
      ∀ e : Edits, e.toAbsolute (some base) = .ok (e.onto base)) ∧
    (∀ disk fault, fault.kind = .parse →
      (expandOn root languages recorder line disk).outcome = .error fault →
      ∀ n ∈ (expandOn root languages recorder line disk).notices, n.isEvent = false) := by
  refine ⟨?_, ?_, ?_, ?_, fun disk fault hKind h n hn => not_isEvent_of_parse hKind h hn⟩
  · intro hLine fault hKind disk disk'
    exact (outcome_expandOn_direct hLine hKind).trans (outcome_expandOn_direct hLine hKind).symm
  · intro hLine hMalformed
    obtain ⟨fault, hWritten⟩ := Command.isMalformed_iff.mp hMalformed
    have hKind : fault.kind = .parse :=
      (Command.failsBy_written line fault hWritten).resolve_right fun h => hShort h.2
    refine ⟨fault, hKind, fun disk => ?_⟩
    exact (outcome_run_eq_error_iff hLine hKind).mpr (.inl hWritten)
  · intro hLine hWellFormed
    cases hWritten : Command.written line with
    | error fault => exact absurd (Command.isMalformed_iff.mpr ⟨fault, hWritten⟩) hWellFormed
    | ok pair =>
      obtain ⟨c, wanted⟩ := pair
      obtain ⟨hParse, -⟩ := Command.written_eq_ok_iff.mp hWritten
      have hMarker := (CommandKind.ofLine?_of_parse hParse).symm.trans hLine
      obtain ⟨name, range | id, suffixes⟩ := c
      · cases hMarker
      · exact ⟨name, id, suffixes, hParse, fun disk => exists_outcome_expandOn_marker hWritten⟩
  · exact fun base => ⟨fun h => h.toAbsolute_onto base, fun e => e.toAbsolute_onto base⟩

end

/-- A marker with reversed bounds. -/
def reversedFile : Text := (letterMarker 2 1).text

/-- A command with a highlight that is no number, on every disk; and one without suffixes, on a disk
with a reversed marker and on one without a file. -/
theorem expandLine_malformed_reversedFile :
    (∃ fault, fault.kind = .parse ∧ ∀ disk,
      (expandOn ⟨.relative, []⟩ .standard .wording "rev_insert_code(f:a)\x7bx\x7d".toList
        disk).outcome = .error fault) ∧
    (∃ fault, fault.kind = .parse ∧
      (expandOn ⟨.relative, []⟩ .standard .wording markerCommand
        (sourcesWith reversedFile).disk).outcome = .error fault) ∧
    ¬ ∃ fault, fault.kind = .parse ∧
      (expandOn ⟨.relative, []⟩ .standard .wording markerCommand
        { entries := [], home := [] }).outcome = .error fault := by
  have hShort (line : Text) (h : line.length ≤ 30) : ¬ line.HasLongRun :=
    not_hasLongRun_of_length (Nat.le_trans h (by decide))
  have hParse : Command.parse "rev_insert_code(f:a)\x7bx\x7d".toList =
      .ok ⟨['f'], .block ['a'], ⟨some ⟨['x'], .absolute⟩, none, none⟩⟩ := by
    decide +kernel
  have hWritten : Command.written markerCommand =
      .ok (⟨['f'], .block ['a'], {}⟩, ⟨{}, {}, {}⟩) :=
    Command.written_eq_ok_iff.mpr ⟨parse_markerCommand, rfl, rfl, rfl⟩
  have hWellFormed : ¬ Command.IsMalformed markerCommand := by
    rw [Command.isMalformed_iff, hWritten]
    rintro ⟨_, ⟨⟩⟩
  obtain ⟨-, hMalformed, -⟩ := expandLine_malformed ⟨.relative, []⟩ .standard .wording
    (hShort "rev_insert_code(f:a)\x7bx\x7d".toList (by decide))
  obtain ⟨-, -, hMarker, -⟩ := expandLine_malformed ⟨.relative, []⟩ .standard .wording
    (hShort markerCommand (by decide))
  obtain ⟨name, id, suffixes, hEq, hFaulty⟩ := hMarker (by decide) hWellFormed
  cases parse_markerCommand.symm.trans hEq
  refine ⟨hMalformed (by decide) (.highlights hParse rfl), (hFaulty _).mpr ?_, ?_⟩
  · have hTen := ten_le_numberBound
    have hSpans : (letterMarker 2 1).Spans 2 1 := spans_letterMarker (by omega) (by omega)
    refine ⟨_, 1, letterMarker 2 1, rfl, ?_, .inr ⟨2, 1, hSpans, by decide, by omega⟩⟩
    exact Marker.find?_eq_some_iff.mp (by decide +kernel)
  · rw [hFaulty]
    rintro ⟨_, _, _, hRead, -⟩
    cases hRead

end Excerpt
