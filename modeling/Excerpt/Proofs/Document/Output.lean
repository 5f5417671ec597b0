import Excerpt.Document
import Excerpt.Proofs.Disk
import Excerpt.Proofs.Insertion.Phases
import Excerpt.Proofs.Source.Lines
import Excerpt.Proofs.Text.Utf8

/-!
# The output of a document

Every line of a document becomes something of its own: a command line what it is replaced by on the
disk as it was, any other line itself. In front of a recorder that is a matter of the line alone;
any other listener may answer by what it was told of the lines before.

A document is processed if it can be read, if all its lines become something, and if the texts that
they become, with line feeds between them, can be written. Otherwise the disk stays as it was,
unless the output breaks off while it is written. Then what was there before is lost, and what
remains is up to the medium.

* `Document.isUnbroken_of_readLines`: no line of a document holds an end of a line.
* `Document.expand_eq_ok_iff`: a document is expanded line by line.
* `Document.becomeInTurn_recorder_iff`: in front of a recorder, each line for itself.
* `Document.process_ok_iff`: the documents that are processed, their reports and the disk behind
  them.
* `Document.process_all_or_nothing`: the output is the only file that is changed, by a document that
  is processed to its end or by an output that breaks off.
* `Document.not_all_or_nothing`: outputs that break off, or do not keep what is written to them.
-/

namespace Excerpt.Document

variable {sources : Sources} {input output : Path} {listener : Listener} {recorder : Recorder}

/-! ## Lines -/

theorem isUnbroken_of_readLines {disk : Disk} {lines : List Text}
    (h : readLines disk input = .ok lines) : ∀ line ∈ lines, line.IsUnbroken := by
  unfold readLines at h
  split at h
  · cases h
  · split at h
    · cases h
    · cases h
      intro line hLine
      refine ⟨fun hFeed => ?_, Text.not_return_of_mem_lines hLine⟩
      cases Text.not_break_of_mem_lines hLine '\n' hFeed

/-- Whether the texts are what stands in the output for the lines: lines without a command as they
are, and command lines as they are replaced one behind the other, in front of a listener that has
heard something before. -/
inductive BecomeInTurn (sources : Sources) (listener : Listener) :
    List Notice → List Text → List Text → Prop
  | none (told : List Notice) : BecomeInTurn sources listener told [] []
  | plain {told : List Notice} {line : Text} {lines texts : List Text}
      (hLine : isCommandLine line = false)
      (hRest : BecomeInTurn sources listener told lines texts) :
      BecomeInTurn sources listener told (line :: lines) (line :: texts)
  | command {told : List Notice} {line text : Text} {lines texts : List Text}
      (hLine : isCommandLine line = true)
      (hText : (expandLine sources listener line told).outcome = .ok text)
      (hRest : BecomeInTurn sources listener
        (told ++ (expandLine sources listener line told).notices) lines texts) :
      BecomeInTurn sources listener told (line :: lines) (text :: texts)

/-- Whether the text is what stands in the output for the line, in front of a recorder. -/
def Becomes (sources : Sources) (recorder : Recorder) (line text : Text) : Prop :=
  if isCommandLine line then (sources.run recorder line).outcome = .ok text else text = line

theorem becomes_iff {line text : Text} :
    Becomes sources recorder line text ↔ (sources.run recorder line).outcome = .ok text := by
  unfold Becomes
  cases hLine : isCommandLine line with
  | true => rfl
  | false =>
    rw [sources.run_of_not_command recorder hLine]
    simp [eq_comm]

theorem becomeInTurn_recorder_iff {told : List Notice} {lines texts : List Text} :
    BecomeInTurn sources recorder.listener told lines texts ↔
      List.Forall₂ (Becomes sources recorder) lines texts := by
  constructor
  · intro h
    induction h with
    | none told => exact .nil
    | plain hLine hRest ih => exact .cons (by rw [Becomes, if_neg (by simp [hLine])]) ih
    | command hLine hText hRest ih =>
      rw [expandLine_recorder] at hText
      exact .cons (becomes_iff.mpr hText) ih
  · intro h
    induction h generalizing told with
    | nil => exact .none told
    | @cons line text lines texts hText hRest ih =>
      cases hLine : isCommandLine line with
      | false =>
        rw [Becomes, if_neg (by simp [hLine])] at hText
        rw [hText]
        exact .plain hLine ih
      | true =>
        refine .command hLine ?_ ih
        rw [expandLine_recorder]
        exact becomes_iff.mp hText

/-- The induction over the lines carries along what the listener was told. -/
theorem mapM_expandLine_eq_ok_iff {told : List Notice} {lines texts : List Text} :
    ((lines.mapM (expandLine sources listener)) told).outcome = .ok texts ↔
      BecomeInTurn sources listener told lines texts := by
  induction lines generalizing told texts with
  | nil =>
    constructor
    · intro h
      cases h
      exact .none told
    · rintro ⟨⟩
      rfl
  | cons line rest ih =>
    simp only [List.mapM_cons, Session.bind_apply, Session.pure_apply, Journal.outcome_bind,
      Journal.outcome_pure, bind_eq_ok_iff, ih]
    cases hLine : isCommandLine line with
    | false =>
      rw [expandLine_of_not_command sources listener hLine]
      constructor
      · rintro ⟨_, ⟨⟩, texts, hRest, ⟨⟩⟩
        exact .plain hLine (List.append_nil told ▸ hRest)
      · intro h
        cases h with
        | plain _ hRest => exact ⟨_, rfl, _, (List.append_nil told).symm ▸ hRest, rfl⟩
        | command hCommand => cases hLine.symm.trans hCommand
    | true =>
      constructor
      · rintro ⟨text, hText, texts, hRest, ⟨⟩⟩
        exact .command hLine hText hRest
      · intro h
        cases h with
        | plain hPlain => cases hLine.symm.trans hPlain
        | command _ hText hRest => exact ⟨_, hText, _, hRest, rfl⟩

theorem expand_eq_ok_iff {lines texts : List Text} :
    (expand sources listener input []).outcome = .ok (lines, texts) ↔
      readLines sources.disk input = .ok lines ∧ BecomeInTurn sources listener [] lines texts := by
  simp only [expand, Session.bind_apply, Session.lift_apply, Session.pure_apply,
    Journal.outcome_bind, Journal.outcome_lift, Journal.outcome_pure, bind_eq_ok_iff]
  constructor
  · rintro ⟨lines, hRead, texts, hTexts, ⟨⟩⟩
    exact ⟨hRead, mapM_expandLine_eq_ok_iff.mp hTexts⟩
  · rintro ⟨hRead, hTexts⟩
    exact ⟨lines, hRead, texts, mapM_expandLine_eq_ok_iff.mpr hTexts, rfl⟩

/-- In front of a recorder the lines are replaced each for itself. -/
theorem expand_recorder (sources : Sources) (recorder : Recorder) (input : Path) :
    expand sources recorder.listener input [] = (do
      let lines ← Journal.lift (readLines sources.disk input)
      let texts ← lines.mapM (sources.run recorder)
      pure (lines, texts)) := by
  unfold expand
  simp only [Session.bind_apply, Session.lift_apply, Session.pure_apply,
    Session.mapM_of_steady (expandLine_recorder sources recorder)]

/-! ## Processing -/

section

variable {disk disk' : Disk} {text : Text} {notices notices' : List Notice}
  {report report' : Report}

theorem writeOut_eq_ok_iff :
    writeOut disk output text notices report = (disk', ⟨notices', .ok report'⟩) ↔
      disk.write output (Utf8.encode text) = .ok disk' ∧ report' = report ∧
        notices' = notices ++ [.processed report.input report.commands report.skipped] := by
  unfold writeOut
  split
  · rename_i hWrite
    simp [hWrite]
  · rename_i hWrite
    simp [hWrite]
  · rename_i hWrite
    simp [hWrite, eq_comm, and_comm]

/-- A text that is not written leaves the disk as it was, or breaks off. -/
theorem disk_of_writeOut_error {fault : Fault}
    (h : writeOut disk output text notices report = (disk', ⟨notices', .error fault⟩)) :
    disk' = disk ∨ ∃ cause,
      disk.write output (Utf8.encode text) = .error (.broken disk' cause) ∧
        fault = .outputNotWritten output (.transfer cause) := by
  unfold writeOut at h
  split at h
  · cases h
    exact .inl rfl
  · rename_i left cause hWrite
    cases h
    exact .inr ⟨cause, hWrite, rfl⟩
  · cases h

end

/-- Either processing fails before anything is written, or all that is left is to write. -/
theorem process_cases (sources : Sources) (input output : Path) (listener : Listener) :
    (∃ fault, (expand sources listener input []).outcome = .error fault ∧
      process sources input output listener =
        (sources.disk, ⟨(expand sources listener input []).notices, .error fault⟩)) ∨
    (∃ lines expanded, (expand sources listener input []).outcome = .ok (lines, expanded) ∧
      process sources input output listener = writeOut sources.disk output (outputText expanded)
        (expand sources listener input []).notices (reportOf input output lines expanded)) := by
  cases h : (expand sources listener input []).outcome with
  | error fault => exact .inl ⟨fault, rfl, process_of_expand_error h⟩
  | ok pair => exact .inr ⟨pair.1, pair.2, rfl, process_of_expand_ok h⟩

theorem process_ok_iff {disk : Disk} {notices : List Notice} {report : Report} :
    process sources input output listener = (disk, ⟨notices, .ok report⟩) ↔
      ∃ lines texts, readLines sources.disk input = .ok lines ∧
        BecomeInTurn sources listener [] lines texts ∧
        sources.disk.write output (Utf8.encode (outputText texts)) = .ok disk ∧
        report = reportOf input output lines texts ∧
        notices = (expand sources listener input []).notices ++
          [.processed input report.commands report.skipped] := by
  obtain ⟨fault, hFault, hProcess⟩ | ⟨lines, texts, hOk, hProcess⟩ :=
    process_cases sources input output listener
  · rw [hProcess]
    constructor
    · intro h
      cases h
    · rintro ⟨lines, texts, hRead, hTexts, -⟩
      cases hFault.symm.trans (expand_eq_ok_iff.mpr ⟨hRead, hTexts⟩)
  · obtain ⟨hRead, hTexts⟩ := expand_eq_ok_iff.mp hOk
    rw [hProcess, writeOut_eq_ok_iff]
    constructor
    · rintro ⟨hWrite, rfl, rfl⟩
      exact ⟨lines, texts, hRead, hTexts, hWrite, rfl, rfl⟩
    · rintro ⟨lines', texts', hRead', hTexts', hWrite, rfl, rfl⟩
      cases hOk.symm.trans (expand_eq_ok_iff.mpr ⟨hRead', hTexts'⟩)
      exact ⟨hWrite, rfl, rfl⟩

/-- A document that fails leaves the disk as it was, unless its output was opened and broke off
while it was written. One that is processed puts down in the output what its lines become on the
disk as it was, as far as that is kept there. Either way the output is the only file that is
changed. -/
theorem process_all_or_nothing (sources : Sources) (input output : Path) (listener : Listener) :
    (∀ disk notices fault,
      process sources input output listener = (disk, ⟨notices, .error fault⟩) →
      disk = sources.disk ∨
        ∃ lines texts cause place, readLines sources.disk input = .ok lines ∧
          BecomeInTurn sources listener [] lines texts ∧
          sources.disk.write output (Utf8.encode (Text.join ['\n'] texts)) =
            .error (.broken disk cause) ∧
          fault = .outputNotWritten output (.transfer cause) ∧
          sources.disk.target output = .ok place ∧
          ∀ other, other ≠ place → disk.get? other = sources.disk.get? other) ∧
    (∀ disk notices report,
      process sources input output listener = (disk, ⟨notices, .ok report⟩) →
      ∃ lines texts place,
        readLines sources.disk input = .ok lines ∧
        BecomeInTurn sources listener [] lines texts ∧
        sources.disk.write output (Utf8.encode (Text.join ['\n'] texts)) = .ok disk ∧
        (sources.disk.Keeps output →
          disk.read output = .ok (Utf8.encode (Text.join ['\n'] texts))) ∧
        sources.disk.target output = .ok place ∧
        ∀ other, other ≠ place → disk.get? other = sources.disk.get? other) := by
  constructor
  · intro disk notices fault h
    obtain ⟨fault', -, hProcess⟩ | ⟨lines, texts, hOk, hProcess⟩ :=
      process_cases sources input output listener
    · cases hProcess.symm.trans h
      exact .inl rfl
    · obtain ⟨hRead, hTexts⟩ := expand_eq_ok_iff.mp hOk
      rw [hProcess] at h
      refine (disk_of_writeOut_error h).imp_right ?_
      rintro ⟨cause, hWrite, hFault⟩
      obtain ⟨place, hTarget, hRest⟩ := (Disk.replaces_of_broken hWrite).exists_only
      exact ⟨lines, texts, cause, place, hRead, hTexts, hWrite, hFault, hTarget, hRest⟩
  · intro disk notices report h
    obtain ⟨lines, texts, hRead, hTexts, hWrite, -⟩ := process_ok_iff.mp h
    obtain ⟨place, hTarget, hRest⟩ := (Disk.replaces_of_write hWrite).exists_only
    exact ⟨lines, texts, place, hRead, hTexts, hWrite, fun hKeeps => hKeeps _ _ hWrite, hTarget,
      hRest⟩

/-! ## Outputs that are lost -/

/-- A document of one line and an older output, on a medium that keeps something of what is
written. -/
def sourcesOnto (kept : Bytes → Transfer) : Sources where
  disk :=
    { entries := [([['d']], .file (Utf8.encode ['x'])), ([['o']], .file (Utf8.encode ['y']))]
      home := []
      medium := { writing := fun _ content => .ok (kept content) } }

/-- Nothing is kept, as there is no space for it. -/
def keptWithoutSpace (_ : Bytes) : Transfer :=
  ⟨[], some (.other 28 "OSError" "No space left on device")⟩

/-- Nothing is kept, and nobody is told. -/
def keptByNullDevice (_ : Bytes) : Transfer := ⟨[], none⟩

/-- Where there is no space the document fails, and the older output is lost. On the null device the
document is processed, and what its line becomes does not stand in the output. -/
theorem not_all_or_nothing :
    (∃ disk notices fault,
      process (sourcesOnto keptWithoutSpace) ⟨.relative, [['d']]⟩ ⟨.relative, [['o']]⟩ .keeping =
        (disk, ⟨notices, .error fault⟩) ∧
      (sourcesOnto keptWithoutSpace).disk.get? [['o']] = some (.file (Utf8.encode ['y'])) ∧
      disk.get? [['o']] = some (.file []) ∧ Utf8.encode ['y'] ≠ []) ∧
    ∃ disk notices report,
      process (sourcesOnto keptByNullDevice) ⟨.relative, [['d']]⟩ ⟨.relative, [['o']]⟩ .keeping =
        (disk, ⟨notices, .ok report⟩) ∧
      readLines (sourcesOnto keptByNullDevice).disk ⟨.relative, [['d']]⟩ = .ok [['x']] ∧
      BecomeInTurn (sourcesOnto keptByNullDevice) .keeping [] [['x']] [['x']] ∧
      disk.read ⟨.relative, [['o']]⟩ = .ok [] ∧ Utf8.encode (Text.join ['\n'] [['x']]) ≠ [] :=
  ⟨⟨_, _, _, rfl, rfl, rfl, by decide⟩, _, _, _, rfl, rfl, .plain rfl (.none []), rfl, by decide⟩

/-! ## A document as its own output -/

/-- A line that inserts the first one of a document. -/
def ownFirstLine : Text := CommandKind.direct.keyword ++ ['(', 'd', ':', '1', ')']

/-- The path of that document. -/
def ownPath : Path := ⟨.relative, [['d']]⟩

/-- A document of two lines, the second of which inserts the first, beside another file. -/
def sourcesWithin : Sources where
  disk :=
    { entries :=
        [([['d']], .file (Utf8.encode ('a' :: '\n' :: ownFirstLine))), ([['g']], .file [])]
      home := [] }

/-- The document as its own output: what is inserted is the line that was there, and the other file
stays. -/
theorem process_onto_itself :
    ∃ disk notices report,
      process sourcesWithin ownPath ownPath .keeping = (disk, ⟨notices, .ok report⟩) ∧
      disk.read ownPath = .ok (Utf8.encode ('a' :: '\n' :: fence ['a', '\n'] [])) ∧
      disk.get? [['g']] = some (.file []) := by
  have hOk : (process sourcesWithin ownPath ownPath .keeping).2.outcome =
      .ok ⟨ownPath, ownPath, 2, 1, 0⟩ := by decide +kernel
  obtain ⟨⟨disk, notices, outcome⟩, hProcess⟩ :
      ∃ result, process sourcesWithin ownPath ownPath .keeping = result := ⟨_, rfl⟩
  rw [hProcess] at hOk
  cases hOk
  obtain ⟨lines, texts, place, hRead, hTexts, -, hContent, hTarget, hRest⟩ :=
    (process_all_or_nothing sourcesWithin ownPath ownPath .keeping).2 _ _ _ hProcess
  have hPlain : sourcesWithin.disk.IsPlain ownPath := fun _ _ _ => ⟨rfl, rfl⟩
  refine ⟨disk, notices, _, hProcess, ?_, ?_⟩
  · have hLines : readLines sourcesWithin.disk ownPath = .ok [['a'], ownFirstLine] := by
      decide +kernel
    obtain rfl := Except.ok.inj (hLines.symm.trans hRead)
    have hInserted : (sourcesWithin.run .keeping ownFirstLine).outcome =
        .ok (fence ['a', '\n'] []) := by decide +kernel
    have hInTurn : BecomeInTurn sourcesWithin Recorder.keeping.listener [] _ texts := hTexts
    have hTexts' := becomeInTurn_recorder_iff.mp hInTurn
    obtain ⟨first, _, hFirst, hRestTexts, rfl⟩ := List.forall₂_cons_left_iff.mp hTexts'
    obtain ⟨second, _, hSecond, hNone, rfl⟩ := List.forall₂_cons_left_iff.mp hRestTexts
    obtain rfl := List.forall₂_nil_left_iff.mp hNone
    obtain rfl : first = ['a'] := hFirst
    obtain rfl := Except.ok.inj (hInserted.symm.trans (becomes_iff.mp hSecond))
    exact hContent hPlain.keeps
  · have hPlace : sourcesWithin.disk.target ownPath = .ok [['d']] := by decide +kernel
    obtain rfl := Except.ok.inj (hPlace.symm.trans hTarget)
    rw [hRest _ (by decide)]
    rfl

end Excerpt.Document
