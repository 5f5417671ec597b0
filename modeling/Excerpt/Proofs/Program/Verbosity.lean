import Excerpt.Proofs.Program.Injection

/-!
# Talkative consoles

A console that is talkative tells the events of a document while it is processed, and an event is
told with markup, on the standard output. Where the terminal cannot show it the run ends, before
anything is written; a quiet console records the event and goes on. Nothing else that a run does
depends on how talkative the console is.

* `tell_problem`: the first notice that cannot be shown, if the console is talkative.
* `effect_process`: what is left behind a document, by the notice that cannot be shown.
* `run_effect_iff`: when two runs leave the same.
* `effect_ne_of_refusesClosingTags`: a document for which they do not, on any terminal that refuses
  closing tags.
-/

namespace Excerpt

/-- What a run leaves behind besides what it prints: its exit code and the disk. -/
def Outcome.effect (o : Outcome) : Nat × Disk := (o.exit, o.disk)

/-- Why a talkative console cannot show a notice, if it cannot. -/
def Notice.showError? (terminal : Terminal) (n : Notice) : Option ShowError :=
  match Diagnostic.ofNotice? n with
  | some (.event name fields) =>
    match Console.printEvent terminal name fields with
    | .error e => some e
    | .ok _ => none
  | _ => none

theorem Notice.showError?_skipped {terminal : Terminal} {line reason : Text} (hLine : line ≠ []) :
    (Notice.skipped line reason).showError? terminal =
      match terminal.info ("Kept unprocessed command: ".toList ++ line) with
      | .error e => some e
      | .ok _ => none := by
  let fields : Fields := [("line".toList, .text line), ("reason".toList, .text reason)]
  have hMessage : Diagnostic.eventMessage? Diagnostic.skippedName fields =
      some ("Kept unprocessed command: ".toList ++ line) := by
    have hLineField : fields.get "line" = .text line := by simp [fields, Fields.get]
    rw [Diagnostic.eventMessage_skipped, hLineField]
    simp [Diagnostic.shown, Datum.isTruthy, Datum.display, hLine]
  have hPrint : Console.printEvent terminal Diagnostic.skippedName fields =
      (terminal.info ("Kept unprocessed command: ".toList ++ line)).map fun t => { out := t } := by
    unfold Console.printEvent
    rw [hMessage]
    dsimp only
    rw [Diagnostic.isUnwritable_skipped, if_neg Bool.false_ne_true]
    rfl
  unfold showError?
  change (match Console.printEvent terminal Diagnostic.skippedName fields with
    | .error e => some e
    | .ok _ => none) = _
  rw [hPrint]
  cases terminal.info ("Kept unprocessed command: ".toList ++ line) <;> rfl

namespace Console

variable {console : Console}

/-- A quiet console can take every diagnostic. -/
theorem emit_of_quiet (terminal : Terminal) (h : console.verbosity = 0) (d : Diagnostic) :
    ∃ printout, (emit terminal console d).2 = .ok printout := by
  cases d with
  | warning message about => exact ⟨_, rfl⟩
  | error message about => exact ⟨_, rfl⟩
  | event name fields => exact ⟨{}, if_pos h⟩

theorem emit_of_talkative (terminal : Terminal) (h : console.verbosity ≠ 0) {n : Notice}
    {d : Diagnostic} (hd : Diagnostic.ofNotice? n = some d) :
    (∃ e, n.showError? terminal = some e ∧ (emit terminal console d).2 = .error e) ∨
      (n.showError? terminal = none ∧ ∃ printout, (emit terminal console d).2 = .ok printout) := by
  unfold Notice.showError?
  rw [hd]
  cases d with
  | warning message about => exact .inr ⟨rfl, _, rfl⟩
  | error message about => exact .inr ⟨rfl, _, rfl⟩
  | event name fields =>
    simp only [emit, if_neg h]
    cases printEvent terminal name fields with
    | error e => exact .inl ⟨e, rfl, rfl⟩
    | ok printout => exact .inr ⟨rfl, _, rfl⟩

end Console

namespace Program

variable {terminal : Terminal} {disk : Disk} {request : Request}

/-! ## Notices -/

theorem tell_problem_of_quiet {t : Telling} (h : t.console.verbosity = 0) (notices : List Notice) :
    (tell terminal t notices).2 = none := by
  induction notices generalizing t with
  | nil => rfl
  | cons n rest ih =>
    unfold tell
    split
    · exact ih h
    · rename_i d _
      obtain ⟨printout, hEmit⟩ := Console.emit_of_quiet terminal h d
      have hVerbosity := Console.emit_verbosity terminal t.console d
      generalize Console.emit terminal t.console d = emitted at hEmit hVerbosity
      obtain ⟨console, result⟩ := emitted
      subst hEmit
      exact ih (hVerbosity.trans h)

theorem tell_problem_of_talkative {t : Telling} (h : t.console.verbosity ≠ 0)
    (notices : List Notice) :
    (tell terminal t notices).2 = notices.findSome? (Notice.showError? terminal) := by
  induction notices generalizing t with
  | nil => rfl
  | cons n rest ih =>
    unfold tell
    split
    · rename_i hNone
      have hShown : n.showError? terminal = none := by
        unfold Notice.showError?
        rw [hNone]
      rw [List.findSome?_cons, hShown]
      exact ih h
    · rename_i d hd
      have hVerbosity := Console.emit_verbosity terminal t.console d
      obtain ⟨e, hError, hEmit⟩ | ⟨hShown, printout, hEmit⟩ :=
        Console.emit_of_talkative terminal h hd
      · rw [List.findSome?_cons, hError]
        generalize Console.emit terminal t.console d = emitted at hEmit
        obtain ⟨console, result⟩ := emitted
        subst hEmit
        rfl
      · rw [List.findSome?_cons, hShown]
        generalize Console.emit terminal t.console d = emitted at hEmit hVerbosity
        obtain ⟨console, result⟩ := emitted
        subst hEmit
        exact ih (hVerbosity.trans_ne h)

/-- The first of the notices that the console cannot show. -/
def problem? (terminal : Terminal) (console : Console) (notices : List Notice) :
    Option ShowError :=
  if console.verbosity = 0 then none else notices.findSome? (Notice.showError? terminal)

theorem tell_problem (terminal : Terminal) (console : Console) (notices : List Notice) :
    (tell terminal { console := console } notices).2 = problem? terminal console notices := by
  unfold problem?
  split
  · rename_i h
    exact tell_problem_of_quiet h notices
  · rename_i h
    exact tell_problem_of_talkative h notices

/-! ## Documents -/

/-- What is left if all notices are shown: the document may have failed, or its summary cannot be
shown. -/
def effectOf (terminal : Terminal) (processed : Disk × Journal Document.Report) : Nat × Disk :=
  match processed.2.outcome with
  | .error _ => (failed, processed.1)
  | .ok report =>
    match terminal.summary (summary report) with
    | .error _ => (failed, processed.1)
    | .ok _ => (0, processed.1)

theorem effect_process (terminal : Terminal) (console : Console) (disk : Disk)
    (input output root : Path) :
    (process terminal console disk input output root).effect =
      if (problem? terminal console
          (Document.process ⟨disk, root, .standard⟩ input output).2.notices).isSome then
        (failed, disk)
      else effectOf terminal (Document.process ⟨disk, root, .standard⟩ input output) := by
  unfold process effectOf
  generalize Document.process ⟨disk, root, .standard⟩ input output = processed
  obtain ⟨changed, journal⟩ := processed
  dsimp only
  rw [← tell_problem]
  generalize tell terminal { console := console } journal.notices = told
  obtain ⟨t, problem⟩ := told
  cases problem with
  | some e => rfl
  | none =>
    cases journal.outcome with
    | error fault => rfl
    | ok report =>
      dsimp only
      cases terminal.summary (summary report) <;> rfl

/-! ## Requests -/

/-- Whether the request is for a document, and nothing stands against processing it. -/
inductive Processes (disk : Disk) : Request → Path → Path → Path → Prop
  | inject {document : Text} {given : Option Text} {root : Text} {input output : Path}
      (hDocument : disk.resolve (Path.ofText document) = input)
      (hOutput : outputPath input given = .ok output)
      (hName : output.toText.contains '\x00' = false) (hOther : disk.resolve output ≠ input) :
      Processes disk (.inject document given root) input output (Path.ofText root)

theorem Processes.follow_eq {input output root : Path}
    (h : Processes disk request input output root) (terminal : Terminal) (console : Console) :
    follow terminal console disk request = process terminal console disk input output root := by
  cases h with
  | inject hDocument hOutput hName hOther =>
    subst hDocument
    change Program.inject terminal console disk _ _ _ = _
    rw [inject_eq, hOutput]
    simp only [hName, hOther, Bool.false_eq_true, if_false]

/-- What is printed line by line leaves the same on every console. -/
theorem effect_finishWith (terminal : Terminal) (console console' : Console) (disk : Disk)
    (lines : List Text) :
    (finishWith terminal console disk lines).effect =
      (finishWith terminal console' disk lines).effect := by
  unfold finishWith
  split <;> rfl

theorem effect_deps (terminal : Terminal) (console console' : Console) (disk : Disk)
    (document root : Path) :
    (deps terminal console disk document root).effect =
      (deps terminal console' disk document root).effect := by
  unfold deps
  split
  · rfl
  · exact effect_finishWith terminal console console' disk _

/-- A request is for a document to be processed, or it leaves the same on every console. -/
theorem processes_or_constant (terminal : Terminal) (disk : Disk) (request : Request) :
    (∃ input output root, Processes disk request input output root) ∨
      ∀ console console', (follow terminal console disk request).effect =
        (follow terminal console' disk request).effect := by
  cases request with
  | answered printout exit => exact .inr fun _ _ => rfl
  | failed fault => exact .inr fun _ _ => rfl
  | version => exact .inr fun console console' => effect_finishWith terminal console console' disk _
  | deps document root =>
    exact .inr fun console console' => effect_deps terminal console console' disk _ _
  | inject document given root =>
    unfold follow
    simp only [inject_eq]
    cases hOutput : outputPath (disk.resolve (Path.ofText document)) given with
    | error fault => exact .inr fun _ _ => rfl
    | ok output =>
      cases hName : output.toText.contains '\x00' with
      | true => exact .inr fun _ _ => by simp only [hName]; rfl
      | false =>
        by_cases hOther : disk.resolve output = disk.resolve (Path.ofText document)
        · exact .inr fun _ _ => by simp only [hName, hOther]; rfl
        · exact .inl ⟨_, output, _, .inject rfl hOutput hName hOther⟩

/-! ## Runs -/

/-- Whether a document is to be processed of which something is told that cannot be shown. -/
def MeetsUnshowable (terminal : Terminal) (disk : Disk) (request : Request) : Prop :=
  ∃ input output root, Processes disk request input output root ∧
    ∃ n ∈ (Document.process ⟨disk, root, .standard⟩ input output).2.notices,
      n.showError? terminal ≠ none

/-- Whether a quiet console fails and leaves the disk as it was. -/
def FailsQuietly (terminal : Terminal) (disk : Disk) (request : Request) : Prop :=
  (follow terminal {} disk request).effect = (failed, disk)

theorem problem?_of_quiet {console : Console} (h : console.verbosity = 0) (notices : List Notice) :
    problem? terminal console notices = none := if_pos h

theorem problem?_of_talkative {console : Console} (h : console.verbosity ≠ 0)
    (notices : List Notice) :
    (problem? terminal console notices).isSome ↔ ∃ n ∈ notices, n.showError? terminal ≠ none := by
  rw [problem?, if_neg h, List.findSome?_isSome_iff]
  simp only [Option.isSome_iff_ne_none]

theorem effect_follow_of_quiet {console : Console} (h : console.verbosity = 0) :
    (follow terminal console disk request).effect =
      (follow terminal {} disk request).effect := by
  obtain ⟨input, output, root, hProcesses⟩ | hSame := processes_or_constant terminal disk request
  · rw [hProcesses.follow_eq, hProcesses.follow_eq, effect_process, effect_process,
      problem?_of_quiet h, problem?_of_quiet rfl]
  · exact hSame console {}

/-- Where something cannot be shown, a talkative console fails and leaves the disk as it was. -/
theorem effect_follow_of_meets {console : Console} (h : console.verbosity ≠ 0)
    (hMeets : MeetsUnshowable terminal disk request) :
    (follow terminal console disk request).effect = (failed, disk) := by
  obtain ⟨input, output, root, hProcesses, hNotice⟩ := hMeets
  rw [hProcesses.follow_eq, effect_process, if_pos ((problem?_of_talkative h _).mpr hNotice)]

/-- Where all can be shown, a talkative console leaves what a quiet one does. -/
theorem effect_follow_of_not_meets {console : Console} (h : console.verbosity ≠ 0)
    (hMeets : ¬ MeetsUnshowable terminal disk request) :
    (follow terminal console disk request).effect =
      (follow terminal {} disk request).effect := by
  obtain ⟨input, output, root, hProcesses⟩ | hSame := processes_or_constant terminal disk request
  · have hShown : ¬ (problem? terminal console
        (Document.process ⟨disk, root, .standard⟩ input output).2.notices).isSome := by
      intro hProblem
      exact hMeets ⟨input, output, root, hProcesses, (problem?_of_talkative h _).mp hProblem⟩
    rw [hProcesses.follow_eq, hProcesses.follow_eq, effect_process, effect_process, if_neg hShown,
      problem?_of_quiet rfl]
    rfl
  · exact hSame console {}

theorem effect_follow_iff (console console' : Console) :
    (follow terminal console disk request).effect =
        (follow terminal console' disk request).effect ↔
      (console.verbosity = 0 ↔ console'.verbosity = 0) ∨
        ¬ MeetsUnshowable terminal disk request ∨ FailsQuietly terminal disk request := by
  by_cases hMeets : MeetsUnshowable terminal disk request
  · by_cases hQuiet : console.verbosity = 0
    · by_cases hQuiet' : console'.verbosity = 0
      · simp [effect_follow_of_quiet hQuiet, effect_follow_of_quiet hQuiet', hQuiet, hQuiet']
      · rw [effect_follow_of_quiet hQuiet, effect_follow_of_meets hQuiet' hMeets]
        simp [hQuiet, hQuiet', hMeets, FailsQuietly]
    · by_cases hQuiet' : console'.verbosity = 0
      · rw [effect_follow_of_quiet hQuiet', effect_follow_of_meets hQuiet hMeets]
        simp [hQuiet, hQuiet', hMeets, FailsQuietly, eq_comm]
      · simp [effect_follow_of_meets hQuiet hMeets, effect_follow_of_meets hQuiet' hMeets, hQuiet,
          hQuiet']
  · have hSame (console : Console) :
        (follow terminal console disk request).effect =
          (follow terminal {} disk request).effect := by
      by_cases hQuiet : console.verbosity = 0
      · exact effect_follow_of_quiet hQuiet
      · exact effect_follow_of_not_meets hQuiet hMeets
    exact iff_of_true ((hSame console).trans (hSame console').symm) (.inr (.inl hMeets))

theorem run_eq {reader : Reader} {args : List Text} {s : Switches} (terminal : Terminal)
    (console : Console) (hs : (reader disk args).switches = some s) :
    ∃ told : Console, told.verbosity = s.verbosity ∧
      run reader terminal console disk args =
        follow terminal told disk (reader disk args).request := by
  refine ⟨console.configure (some s.verbosity) (some s.tracebacks), ?_, ?_⟩
  · simp [Console.configure]
  · simp only [run, hs]

/-- Two runs for one request leave the same exit code and the same disk unless one of them is quiet
and the other is not, something is told of the document that the terminal cannot show, and the quiet
run does not fail anyway. A list of dependencies never depends on it. So it is with switches in
front of a command line, if the reader counts them. -/
theorem run_effect_iff {reader : Reader} (hReader : reader.CountsVerbose) (terminal : Terminal)
    (console : Console) (disk : Disk) {args args' : List Text} {s s' : Switches}
    (hs : (reader disk args).switches = some s) (hs' : (reader disk args').switches = some s')
    (hRequest : (reader disk args').request = (reader disk args).request) :
    ((run reader terminal console disk args).effect =
        (run reader terminal console disk args').effect ↔
      (s.verbosity = 0 ↔ s'.verbosity = 0) ∨
        ¬ MeetsUnshowable terminal disk (reader disk args).request ∨
        FailsQuietly terminal disk (reader disk args).request) ∧
    (∀ document root, (reader disk args).request = .deps document root →
      (run reader terminal console disk args).effect =
        (run reader terminal console disk args').effect) ∧
    ∀ k n,
      (run reader terminal console disk
          (List.replicate k CommandLine.verboseSwitch ++ args)).effect =
        (run reader terminal console disk
          (List.replicate n CommandLine.verboseSwitch ++ args)).effect ↔
      (s.verbosity + k = 0 ↔ s.verbosity + n = 0) ∨
        ¬ MeetsUnshowable terminal disk (reader disk args).request ∨
        FailsQuietly terminal disk (reader disk args).request := by
  have hRuns {args args' : List Text} {s s' : Switches}
      (hs : (reader disk args).switches = some s) (hs' : (reader disk args').switches = some s')
      (hRequest : (reader disk args').request = (reader disk args).request) :
      (run reader terminal console disk args).effect =
          (run reader terminal console disk args').effect ↔
        (s.verbosity = 0 ↔ s'.verbosity = 0) ∨
          ¬ MeetsUnshowable terminal disk (reader disk args).request ∨
          FailsQuietly terminal disk (reader disk args).request := by
    obtain ⟨first, hFirst, hRun⟩ := run_eq terminal console hs
    obtain ⟨second, hSecond, hRun'⟩ := run_eq terminal console hs'
    rw [hRun, hRun', hRequest, ← hFirst, ← hSecond]
    exact effect_follow_iff first second
  refine ⟨hRuns hs hs' hRequest, ?_, fun k n => ?_⟩
  · intro document root hDeps
    refine (hRuns hs hs' hRequest).mpr (.inr (.inl ?_))
    rintro ⟨input, output, root', hProcesses, -⟩
    rw [hDeps] at hProcesses
    cases hProcesses
  · have hLouder (k : Nat) := hReader.replicate disk args k
    have hSwitches (k : Nat) :
        (reader disk (List.replicate k CommandLine.verboseSwitch ++ args)).switches =
          some { s with verbosity := s.verbosity + k } := by
      rw [hLouder, CommandLine.louder, hs]
      rfl
    have hSame (k : Nat) :
        (reader disk (List.replicate k CommandLine.verboseSwitch ++ args)).request =
          (reader disk args).request := by
      rw [hLouder]
      rfl
    have hTwo := hRuns (hSwitches k) (hSwitches n) ((hSame n).trans (hSame k).symm)
    rwa [hSame k] at hTwo

/-! ## Closing tags -/

/-- A command for a file that is not there, with a name that reads like a closing tag. -/
def tagLine : Text := "insert_code([/b]:1)".toList

/-- A directory with a document that has this line only. -/
def tagDisk : Disk where
  entries := [([['w']], .directory), ([['w'], ['d']], .file (Utf8.encode tagLine))]
  home := [['w']]

/-- The request for the document. -/
def documentRequest : Request := .inject ['d'] (some ['o']) ['.']

/-- What becomes of the document. -/
def tagProcessed : Disk × Journal Document.Report :=
  Document.process ⟨tagDisk, Path.ofText ['.'], .standard⟩ ⟨.slash, [['w'], ['d']]⟩
    (Path.ofText ['o'])

/-- What is told at the end: the line is left as it was. -/
def tagSummary : Text :=
  "Inserted 0 snippet(s) into o (1 command(s) left unprocessed)".toList

theorem processes_tagDisk :
    Processes tagDisk documentRequest ⟨.slash, [['w'], ['d']]⟩ (Path.ofText ['o'])
      (Path.ofText ['.']) :=
  .inject (by decide +kernel) rfl (by decide +kernel) (by decide +kernel)

theorem meetsUnshowable_tagDisk (hTags : terminal.RefusesClosingTags) :
    MeetsUnshowable terminal tagDisk documentRequest := by
  have hSkipped : Notice.skipped tagLine "Could not open source file '[/b]'.".toList ∈
      tagProcessed.2.notices := by decide +kernel
  refine ⟨_, _, _, processes_tagDisk, _, hSkipped, ?_⟩
  obtain ⟨e, hError⟩ := hTags "Kept unprocessed command: insert_code(".toList ['b'] ":1)".toList
    (by decide +kernel) (by decide +kernel) (by decide +kernel) (by decide +kernel)
  have hMessage : terminal.info ("Kept unprocessed command: ".toList ++ tagLine) = .error e :=
    hError
  rw [Notice.showError?_skipped (by decide), hMessage]
  exact Option.some_ne_none e

theorem not_failsQuietly_tagDisk {shown : Text}
    (hSummary : terminal.summary tagSummary = .ok shown) :
    ¬ FailsQuietly terminal tagDisk documentRequest := by
  have hReport : tagProcessed.2.outcome =
      .ok ⟨⟨.slash, [['w'], ['d']]⟩, Path.ofText ['o'], 1, 1, 1⟩ := by decide +kernel
  intro hFails
  unfold FailsQuietly at hFails
  rw [processes_tagDisk.follow_eq, effect_process, problem?_of_quiet rfl] at hFails
  change effectOf terminal tagProcessed = _ at hFails
  unfold effectOf at hFails
  rw [hReport] at hFails
  have hTold : summary ⟨⟨.slash, [['w'], ['d']]⟩, Path.ofText ['o'], 1, 1, 1⟩ = tagSummary := by
    decide +kernel
  dsimp only at hFails
  rw [hTold, hSummary] at hFails
  cases congrArg Prod.fst hFails

/-- On a terminal that refuses closing tags but shows the summary, a talkative console fails on the
document, and a quiet one does not. -/
theorem effect_ne_of_refusesClosingTags {shown : Text} (hTags : terminal.RefusesClosingTags)
    (hSummary : terminal.summary tagSummary = .ok shown) {quiet talkative : Console}
    (hQuiet : quiet.verbosity = 0) (hTalkative : talkative.verbosity ≠ 0) :
    (follow terminal quiet tagDisk documentRequest).effect ≠
      (follow terminal talkative tagDisk documentRequest).effect := by
  intro hSame
  obtain hBoth | hNever | hFails := (effect_follow_iff quiet talkative).mp hSame
  · exact hTalkative (hBoth.mp hQuiet)
  · exact hNever (meetsUnshowable_tagDisk hTags)
  · exact not_failsQuietly_tagDisk hSummary hFails

/-- The name in the closing tag that a text begins with. -/
def closingTag? : Text → Option Text
  | '[' :: '/' :: rest => (Text.cut ']' rest).map Prod.fst
  | _ => none

/-- The first closing tag of a text: how many characters stand in front of it, and its name. -/
def firstClosingTag? : Text → Option (Nat × Text)
  | [] => none
  | c :: rest =>
    match closingTag? (c :: rest) with
    | some name => some (0, name)
    | none => (firstClosingTag? rest).map fun (position, name) => (position + 1, name)

/-- Prints a text as it is, on a line of its own, unless there is a closing tag in it. -/
def printTagged (t : Text) : Except ShowError Text :=
  match firstClosingTag? t with
  | none => .ok (t ++ ['\n'])
  | some (position, name) =>
    let message := s!"closing tag '[/{Fault.plain name}]' at position {position} " ++
      "doesn't match any open tag"
    .error ⟨"MarkupError".toList, message.toList, some (.ofLabel Incident.keyLabel name)⟩

/-- A terminal on which no tag can be opened. -/
def tagTerminal : Terminal := { Terminal.plain with info := printTagged, summary := printTagged }

theorem firstClosingTag?_isSome (before : Text) {name : Text} (hName : ']' ∉ name)
    (after : Text) :
    (firstClosingTag? (before ++ '[' :: '/' :: name ++ ']' :: after)).isSome = true := by
  induction before with
  | nil =>
    have hTag : closingTag? ('[' :: '/' :: (name ++ ']' :: after)) = some name := by
      rw [closingTag?, Text.cut_append hName]
      rfl
    change (firstClosingTag? ('[' :: '/' :: (name ++ ']' :: after))).isSome = true
    rw [firstClosingTag?, hTag]
    rfl
  | cons c rest ih =>
    rw [List.cons_append, List.cons_append, firstClosingTag?]
    split
    · rfl
    · rw [Option.isSome_map]
      exact ih

theorem refusesClosingTags_tagTerminal : tagTerminal.RefusesClosingTags := by
  intro before name after _ _ _ hName
  obtain ⟨tag, hTag⟩ := Option.isSome_iff_exists.mp (firstClosingTag?_isSome before hName after)
  change ∃ e, printTagged (before ++ '[' :: '/' :: name ++ ']' :: after) = .error e
  rw [printTagged, hTag]
  exact ⟨_, rfl⟩

/-! ## Two runs -/

/-- A directory with a document that inserts the only line of another file. -/
def plainDisk : Disk where
  entries :=
    [([['w']], .directory), ([['w'], ['d']], .file (Utf8.encode "insert_code(f:1)".toList)),
      ([['w'], ['f']], .file [0x78, 0x0A])]
  home := [['w']]

/-- The command line for the document. -/
def documentArgs : List Text := ["inject", "d", "--output", "o"].map String.toList

/-- A run on the document of a directory, with or without the switch in front. -/
def documentRun (disk : Disk) (isTalkative : Bool) : Outcome :=
  let switches := if isTalkative then [CommandLine.verboseSwitch] else []
  run CommandLine.reader tagTerminal {} disk (switches ++ documentArgs)

theorem not_meetsUnshowable_plainDisk :
    ¬ MeetsUnshowable tagTerminal plainDisk documentRequest := by
  rintro ⟨input, output, root, hProcesses, n, hn, hError⟩
  cases hProcesses with
  | inject hDocument hOutput _ _ =>
    subst hDocument
    obtain rfl := Except.ok.inj hOutput
    have hAll : (Document.process ⟨plainDisk, Path.ofText ['.'], .standard⟩
        (plainDisk.resolve (Path.ofText ['d'])) (Path.ofText ['o'])).2.notices.all
          (fun n => (n.showError? tagTerminal).isNone) = true := by
      decide +kernel
    exact hError (Option.isNone_iff_eq_none.mp (List.all_eq_true.mp hAll n hn))

/-- The document is processed alike by a quiet run and by a talkative one. -/
theorem run_effect_iff_plainDocument :
    Reader.CountsVerbose CommandLine.reader ∧
    (CommandLine.reader plainDisk documentArgs).switches = some ⟨0, false⟩ ∧
    (CommandLine.reader plainDisk (CommandLine.verboseSwitch :: documentArgs)).switches =
      some ⟨1, false⟩ ∧
    (CommandLine.reader plainDisk (CommandLine.verboseSwitch :: documentArgs)).request =
      (CommandLine.reader plainDisk documentArgs).request ∧
    (documentRun plainDisk false).exit = 0 ∧
    (documentRun plainDisk false).effect = (documentRun plainDisk true).effect := by
  have hQuiet : CommandLine.reader plainDisk documentArgs =
      ⟨some ⟨0, false⟩, documentRequest⟩ := by decide +kernel
  have hTalkative : CommandLine.reader plainDisk (CommandLine.verboseSwitch :: documentArgs) =
      ⟨some ⟨1, false⟩, documentRequest⟩ := by decide +kernel
  have hSwitches := congrArg CommandLine.switches hQuiet
  have hSwitches' := congrArg CommandLine.switches hTalkative
  have hRequest := congrArg CommandLine.request hQuiet
  have hSame := (congrArg CommandLine.request hTalkative).trans hRequest.symm
  refine ⟨CommandLine.reader_countsVerbose, hSwitches, hSwitches', hSame, by decide +kernel, ?_⟩
  refine (run_effect_iff CommandLine.reader_countsVerbose tagTerminal {} plainDisk hSwitches
    hSwitches' hSame).1.mpr (.inr (.inl ?_))
  rw [hRequest]
  exact not_meetsUnshowable_plainDisk

/-- On the document with the tag the quiet run writes the output, and the talkative one fails
and writes nothing. -/
theorem not_run_effect_closingTag :
    CommandLine.reader tagDisk documentArgs = ⟨some ⟨0, false⟩, documentRequest⟩ ∧
    CommandLine.reader tagDisk (CommandLine.verboseSwitch :: documentArgs) =
      ⟨some ⟨1, false⟩, documentRequest⟩ ∧
    tagTerminal.RefusesClosingTags ∧
    (documentRun tagDisk false).exit = 0 ∧
    (documentRun tagDisk false).disk.read (Path.ofText ['o']) = .ok (Utf8.encode tagLine) ∧
    (documentRun tagDisk true).exit = 1 ∧
    (documentRun tagDisk true).disk.get? [['w'], ['o']] = none ∧
    (documentRun tagDisk false).effect ≠ (documentRun tagDisk true).effect := by
  have hQuiet : (documentRun tagDisk false).exit = 0 := by decide +kernel
  have hTalkative : (documentRun tagDisk true).exit = 1 := by decide +kernel
  refine ⟨by decide +kernel, by decide +kernel, refusesClosingTags_tagTerminal, hQuiet,
    by decide +kernel, hTalkative, by decide +kernel, ?_⟩
  intro hSame
  have hExit : (documentRun tagDisk false).exit = (documentRun tagDisk true).exit :=
    congrArg Prod.fst hSame
  rw [hQuiet, hTalkative] at hExit
  cases hExit

end Program

end Excerpt
