import Excerpt.Proofs.Document.Output
import Excerpt.Proofs.Insertion.Events

/-!
# The report of a document

Every command line of a document that is processed tells one event, in the order of the document,
and is kept exactly if its event says that it was skipped. So the report, which is counted from
the lines and their texts alone, counts the events.

* `Document.notices_expand`: what is told of the lines of a document.
* `Document.forall₂_events`: the events, one for each command line.
* `Document.countSkipped_eq`: the lines that are kept, counted as pairs.
* `Document.process_report`: the report, the events and the output agree.
-/

namespace Excerpt

/-- What is counted in one list is what is counted in the other, if its members are. -/
theorem countP_eq_of_forall₂ {α β : Type} {R : α → β → Prop} {p : α → Bool} {q : β → Bool}
    {xs : List α} {ys : List β} (h : List.Forall₂ R xs ys)
    (hCounted : ∀ a b, R a b → p a = q b) : xs.countP p = ys.countP q := by
  induction h with
  | nil => rfl
  | cons hFirst _ ih => rw [List.countP_cons, List.countP_cons, ih, hCounted _ _ hFirst]

namespace Document

variable {sources : Sources} {input output : Path} {recorder : Recorder}

/-- The command lines among the lines, each with its text. -/
def commandPairs (lines texts : List Text) : List (Text × Text) :=
  (lines.zip texts).filter fun pair => isCommandLine pair.1

/-- Whether a notice is the event of a command line that becomes the text: the line stays exactly if
it is said to be skipped. -/
def Reports (pair : Text × Text) (event : Notice) : Prop :=
  event.IsEventOf pair.1 ∧
    (pair.2 = pair.1 ↔ event.eventName? = some Diagnostic.skippedName)

/-! ## Events of the lines -/

/-- What is told of the lines. -/
def noticesOf (sources : Sources) (recorder : Recorder) (lines : List Text) : List Notice :=
  lines.flatMap fun line => (sources.run recorder line).notices

theorem notices_expand {lines texts : List Text} (hRead : readLines sources.disk input = .ok lines)
    (hTexts : List.Forall₂ (Becomes sources recorder) lines texts) :
    (expand sources recorder.listener input []).notices = noticesOf sources recorder lines := by
  have hAll : (lines.mapM (sources.run recorder)).outcome = .ok texts := by
    rw [Journal.outcome_mapM]
    exact mapM_eq_ok_iff.mpr (hTexts.imp fun line text => becomes_iff.mp)
  rw [expand_recorder, hRead, Journal.lift_ok, pure_bind, (Journal.notices_bind_ok hAll _).1,
    Journal.notices_mapM hAll]
  exact List.append_nil _

theorem forall₂_events {lines texts : List Text}
    (h : List.Forall₂ (Becomes sources recorder) lines texts) :
    List.Forall₂ Reports (commandPairs lines texts)
      ((noticesOf sources recorder lines).filter Notice.isEvent) := by
  induction h with
  | nil => exact .nil
  | @cons line text lines texts hText _ ih =>
    unfold noticesOf at ih ⊢
    rw [List.flatMap_cons, List.filter_append]
    cases hLine : isCommandLine line with
    | false =>
      have hPairs : commandPairs (line :: lines) (text :: texts) = commandPairs lines texts := by
        simp [commandPairs, hLine]
      rw [hPairs, sources.run_of_not_command recorder hLine]
      exact ih
    | true =>
      have hPairs : commandPairs (line :: lines) (text :: texts) =
          (line, text) :: commandPairs lines texts := by
        simp [commandPairs, hLine]
      obtain ⟨event, hEvents, hAbout, hName⟩ :=
        filter_isEvent_of_ok hLine (becomes_iff.mp hText)
      rw [hPairs, hEvents]
      exact .cons ⟨hAbout, hName⟩ ih

/-! ## Counts -/

theorem isCommandLine_eq (line : Text) : isCommandLine line =
    (CommandKind.direct.keyword.isPrefixOf line || CommandKind.marker.keyword.isPrefixOf line) := by
  unfold isCommandLine CommandKind.ofLine?
  cases CommandKind.marker.keyword.isPrefixOf line <;>
    cases CommandKind.direct.keyword.isPrefixOf line <;> rfl

theorem length_commandPairs {lines texts : List Text} (h : lines.length = texts.length) :
    (commandPairs lines texts).length = lines.countP isCommandLine := by
  have hFirst : (lines.zip texts).map Prod.fst = lines := List.map_fst_zip (Nat.le_of_eq h)
  unfold commandPairs
  rw [← List.countP_eq_length_filter]
  conv_rhs => rw [← hFirst, List.countP_map]
  rfl

theorem countSkipped_eq (lines texts : List Text) :
    countSkipped lines texts =
      (commandPairs lines texts).countP fun pair => decide (pair.2 = pair.1) := by
  unfold countSkipped commandPairs
  rw [List.countP_filter]
  congr 1
  funext pair
  simp [Bool.and_comm, beq_eq_decide]

/-- An event of one name is none of the other, and every event has one of the two. -/
theorem countP_events {pairs : List (Text × Text)} {events : List Notice}
    (h : List.Forall₂ Reports pairs events) :
    pairs.length = events.countP (fun n => n.eventName? = some Diagnostic.insertedName) +
      events.countP (fun n => n.eventName? = some Diagnostic.skippedName) := by
  have hNames := Diagnostic.insertedName_ne_skippedName
  induction h with
  | nil => rfl
  | cons hFirst _ ih =>
    rcases Notice.eventName?_of_isEventOf hFirst.1 with hName | hName
    · simp [ih, hName, hNames]
      omega
    · simp [ih, hName, hNames.symm]
      omega

/-- Only events have the name of an event. -/
theorem countP_eventName (notices : List Notice) (name : Text) :
    (notices.filter Notice.isEvent).countP (fun n => n.eventName? = some name) =
      notices.countP fun n => n.eventName? = some name := by
  rw [List.countP_filter]
  congr 1
  funext n
  cases h : n.eventName? with
  | none => simp
  | some other => simp [Notice.isEvent, h]

variable {lines texts : List Text}

/-- The lines that are kept are as many as are said to be skipped. -/
theorem countSkipped_eq_countP (h : List.Forall₂ (Becomes sources recorder) lines texts) :
    countSkipped lines texts = (noticesOf sources recorder lines).countP
      fun n => n.eventName? = some Diagnostic.skippedName := by
  rw [countSkipped_eq, ← countP_eventName]
  exact countP_eq_of_forall₂ (forall₂_events h) fun pair event hReports =>
    decide_eq_decide.mpr hReports.2

/-- Every command line is either inserted or skipped. -/
theorem countP_isCommandLine (h : List.Forall₂ (Becomes sources recorder) lines texts) :
    lines.countP isCommandLine =
      (noticesOf sources recorder lines).countP
          (fun n => n.eventName? = some Diagnostic.insertedName) +
        (noticesOf sources recorder lines).countP
          (fun n => n.eventName? = some Diagnostic.skippedName) := by
  rw [← length_commandPairs h.length_eq, countP_events (forall₂_events h), countP_eventName,
    countP_eventName]

/-! ## The report -/

/-- The report of a document that is processed counts its lines, its command lines and the events of
either kind; every line that is skipped is told right behind its warning; and the events belong to
the command lines one by one, each to the text that its line becomes. -/
theorem process_report {disk : Disk} {notices : List Notice} {report : Report}
    (h : process sources input output recorder.listener = (disk, ⟨notices, .ok report⟩)) :
    ∃ lines texts,
      readLines sources.disk input = .ok lines ∧
      List.Forall₂ (Becomes sources recorder) lines texts ∧
      sources.disk.write output (Utf8.encode (Text.join ['\n'] texts)) = .ok disk ∧
      (sources.disk.Keeps output →
        disk.read output = .ok (Utf8.encode (Text.join ['\n'] texts))) ∧
      report.lines = lines.length ∧
      report.commands = lines.countP (fun line => CommandKind.direct.keyword.isPrefixOf line ||
        CommandKind.marker.keyword.isPrefixOf line) ∧
      report.skipped = notices.countP (fun n => n.eventName? = some Diagnostic.skippedName) ∧
      report.inserted = notices.countP (fun n => n.eventName? = some Diagnostic.insertedName) ∧
      IsHeralded notices ∧
      List.Forall₂ Reports (commandPairs lines texts) (notices.filter Notice.isEvent) := by
  obtain ⟨lines, texts, hRead, hInTurn, hWrite, rfl, rfl⟩ := process_ok_iff.mp h
  have hTexts := becomeInTurn_recorder_iff.mp hInTurn
  rw [notices_expand hRead hTexts]
  have hCount (name : Text) (last : Notice) (hLast : last.eventName? = none) :
      (noticesOf sources recorder lines ++ [last]).countP (fun n => n.eventName? = some name) =
        (noticesOf sources recorder lines).countP fun n => n.eventName? = some name := by
    simp [List.countP_append, hLast]
  have hSkipped := countSkipped_eq_countP hTexts
  have hAll := countP_isCommandLine hTexts
  refine ⟨lines, texts, hRead, hTexts, hWrite, fun hKeeps => hKeeps _ _ hWrite,
    rfl, ?_, ?_, ?_, ?_, ?_⟩
  · change lines.countP isCommandLine = _
    congr 1
    funext line
    exact isCommandLine_eq line
  · rw [hCount _ _ rfl]
    exact hSkipped
  · rw [hCount _ _ rfl]
    change lines.countP isCommandLine - countSkipped lines texts = _
    omega
  · refine (isHeralded_flatMap fun line _ => isHeralded_run sources recorder line).append ?_
    refine isHeralded_of_no_skip fun n hn => ?_
    rw [List.mem_singleton.mp hn]
    exact nofun
  · rw [List.filter_append]
    exact (List.append_nil _).symm ▸ forall₂_events hTexts

/-- A document that inserts its own first line, behind a command for a file that is missing. -/
def mixedSources : Sources where
  disk :=
    { entries := [([['d']], .file (Utf8.encode ('a' :: '\n' :: CommandKind.direct.keyword ++
        ['(', 'x', ':', '1', ')', '\n'] ++ ownFirstLine)))]
      home := [] }

/-- One of its commands is kept and one is replaced. -/
theorem process_report_mixed :
    ∃ disk notices report,
      process mixedSources ownPath ownPath .wording = (disk, ⟨notices, .ok report⟩) ∧
      report.lines = 3 ∧ report.commands = 2 ∧
      notices.countP (fun n => n.eventName? = some Diagnostic.skippedName) = 1 ∧
      notices.countP (fun n => n.eventName? = some Diagnostic.insertedName) = 1 ∧
      IsHeralded notices := by
  have hOk : (process mixedSources ownPath ownPath .wording).2.outcome =
      .ok ⟨ownPath, ownPath, 3, 2, 1⟩ := by decide +kernel
  obtain ⟨⟨disk, notices, outcome⟩, hProcess⟩ :
      ∃ result, process mixedSources ownPath ownPath .wording = result := ⟨_, rfl⟩
  rw [hProcess] at hOk
  cases hOk
  have hRecorder : process mixedSources ownPath ownPath Recorder.wording.listener =
      (disk, ⟨notices, .ok ⟨ownPath, ownPath, 3, 2, 1⟩⟩) := hProcess
  obtain ⟨lines, texts, -, -, -, -, -, -, hSkipped, hInserted, hHeralded, -⟩ :=
    process_report hRecorder
  exact ⟨disk, notices, _, hProcess, rfl, rfl, hSkipped.symm, hInserted.symm, hHeralded⟩

end Document

end Excerpt
