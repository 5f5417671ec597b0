import Excerpt.Console.CommandLine
import Excerpt.Console.Message
import Excerpt.Document

/-!
# The program

A run of the program takes a console, a disk and the arguments, and leaves a console, a disk, a
printout and an exit code: zero if all went well, one for a failure, two if the command line cannot
be followed. Who reads the command line and what a text is shown on is not a matter of the program.
What is told while a document is processed may itself fail to be shown; then the run fails there,
and nothing is written.

* `deps_disk`: listing what a document depends on writes nothing.
* `tell_verbosity`: what is told makes a console neither more nor less talkative.
-/

namespace Excerpt

/-- What a run leaves; the traces are the notices that only a log is for. -/
structure Outcome where
  console : Console
  disk : Disk
  printout : Printout
  exit : Nat
  traces : List Notice

namespace Program

def version : Text := "0.1.0".toList

/-- The exit code of a failure. -/
def failed : Nat := 1

/-- The exit code of a command line that cannot be followed. -/
def refused : Nat := 2

variable (terminal : Terminal)

/-! ## Failures -/

/-- Ends with a message about a failure. With tracebacks, all that is behind it is told. -/
def fail (console : Console) (disk : Disk) (message : Text) (about : Incidents) : Outcome :=
  let printout :=
    if console.tracebacks then { err := terminal.traceback (2 ≤ console.verbosity) about }
    else Console.printNote terminal console .error message (some about)
  ⟨console, disk, printout, failed, []⟩

/-- Ends with a fault, in its own words. -/
def failWith (console : Console) (disk : Disk) (fault : Fault) : Outcome :=
  fail terminal console disk fault.message.toList fault.incidents

/-- Ends because a text cannot be shown. -/
def failToShow (console : Console) (disk : Disk) (e : ShowError) (reported : Incidents) :
    Outcome :=
  fail terminal console disk e.message (e.incidents reported)

/-- Ends because the command line cannot be followed. -/
def refuse (console : Console) (disk : Disk) (why : Text) : Outcome :=
  ⟨console, disk, { err := terminal.refusal why }, refused, []⟩

/-! ## Telling -/

/-- A console while notices are told: what it has printed, the failures that are being reported at
the moment, and the traces, which are not printed. -/
structure Telling where
  console : Console
  printout : Printout := {}
  reported : Incidents := []
  traces : List Notice := []

/-- The end of a run in which all that was told has been shown. -/
def Telling.finish (t : Telling) (outcome : Outcome) : Outcome :=
  { outcome with traces := t.traces, printout := t.printout ++ outcome.printout }

/-- The failures that are being reported behind a notice. -/
def reportedBehind : Notice → Incidents
  | .notProcessed _ _ fault => fault.incidents
  | _ => []

/-- Tells notices in order, up to the first that cannot be shown. -/
def tell (t : Telling) : List Notice → Telling × Option ShowError
  | [] => (t, none)
  | notice :: rest =>
    match Diagnostic.ofNotice? notice with
    | none => tell { t with traces := t.traces ++ [notice] } rest
    | some diagnostic =>
      match Console.emit terminal t.console diagnostic with
      | (console, .error e) => ({ t with console := console }, some e)
      | (console, .ok printout) =>
        tell ⟨console, t.printout ++ printout, reportedBehind notice, t.traces⟩ rest

/-- Prints lines, up to the first that cannot be printed. -/
def echoAll : List Text → Text × Option ShowError
  | [] => ([], none)
  | line :: rest =>
    match terminal.echo line with
    | .error e => ([], some e)
    | .ok shown => (echoAll rest).map (shown ++ ·) id

/-- Ends with lines on the standard output. -/
def finishWith (console : Console) (disk : Disk) (lines : List Text) : Outcome :=
  match echoAll terminal lines with
  | (shown, none) => ⟨console, disk, { out := shown }, 0, []⟩
  | (shown, some e) =>
    let outcome := failToShow terminal console disk e []
    { outcome with printout := { out := shown } ++ outcome.printout }

/-! ## Commands -/

/-- What is told when a document has been processed. -/
def summary (report : Document.Report) : Text :=
  (s!"Inserted {report.inserted} snippet(s) into {Fault.pathText report.output}" ++
    if report.skipped = 0 then ""
    else s!" ({report.skipped} command(s) left unprocessed)").toList

/-- The message about a fault that stopped a document: the most special one. -/
def headline (fault : Fault) : Text :=
  if fault.kind.isSnippet then (fault.incidents.hint? 0).getD fault.message.toList
  else fault.message.toList

/-- Processes a document and tells what happens. What is told before the output is written is told
in order, so a notice that cannot be shown comes before any fault behind it. -/
def process (console : Console) (disk : Disk) (input output root : Path) : Outcome :=
  let (changed, journal) := Document.process ⟨disk, root, .standard⟩ input output
  let (t, problem) := tell terminal { console := console } journal.notices
  t.finish <| match problem, journal.outcome with
    | some e, _ => failToShow terminal t.console disk e t.reported
    | none, .error fault => fail terminal t.console changed (headline fault) fault.incidents
    | none, .ok report =>
      match terminal.summary (summary report) with
      | .error e => failToShow terminal t.console changed e []
      | .ok shown => ⟨t.console, changed, { out := shown }, 0, []⟩

/-- Why an output is refused that is the document itself. -/
def overwrites : Text :=
  "Output would overwrite the input document; pass --output explicitly.".toList

/-- Replaces the commands of a document. The output must not be the document itself. -/
def inject (console : Console) (disk : Disk) (document : Path) (output : Option Path)
    (root : Path) : Outcome :=
  match output.elim (Document.defaultOutput document) .ok with
  | .error fault => failWith terminal console disk fault
  | .ok output =>
    if output.toText.contains '\x00' then failWith terminal console disk .nullCharacter
    else if disk.resolve output = document then refuse terminal console disk overwrites
    else process terminal console disk document output root

/-- Lists the files that a document depends on, one on a line. -/
def deps (console : Console) (disk : Disk) (document root : Path) : Outcome :=
  match Document.dependencies disk document root with
  | .error fault => failWith terminal console disk fault
  | .ok paths => finishWith terminal console disk (paths.map Path.toText)

/-- Follows a request. A document is taken by the path that its spelling resolves to. -/
def follow (console : Console) (disk : Disk) : Request → Outcome
  | .answered printout exit => ⟨console, disk, printout, exit, []⟩
  | .failed fault => failWith terminal console disk fault
  | .version => finishWith terminal console disk [version]
  | .inject document output root =>
    inject terminal console disk (disk.resolve (Path.ofText document)) (output.map Path.ofText)
      (Path.ofText root)
  | .deps document root =>
    deps terminal console disk (disk.resolve (Path.ofText document)) (Path.ofText root)

/-- A run of the program. -/
def run (reader : Reader) (terminal : Terminal) (console : Console) (disk : Disk)
    (args : List Text) : Outcome :=
  let line := reader disk args
  let console := match line.switches with
    | none => console
    | some switches => console.configure (some switches.verbosity) (some switches.tracebacks)
  follow terminal console disk line.request

/-! ## Laws -/

theorem finishWith_disk (console : Console) (disk : Disk) (lines : List Text) :
    (finishWith terminal console disk lines).disk = disk := by
  unfold finishWith
  split <;> rfl

theorem deps_disk (console : Console) (disk : Disk) (document root : Path) :
    (deps terminal console disk document root).disk = disk := by
  unfold deps
  split
  · rfl
  · exact finishWith_disk terminal console disk _

theorem tell_verbosity (t : Telling) (notices : List Notice) :
    (tell terminal t notices).1.console.verbosity = t.console.verbosity := by
  induction notices generalizing t with
  | nil => rfl
  | cons notice rest ih =>
    unfold tell
    split
    · exact ih _
    · rename_i diagnostic _
      have hEmit := Console.emit_verbosity terminal t.console diagnostic
      split
      · rename_i hEq
        rw [hEq] at hEmit
        exact hEmit
      · rename_i hEq
        rw [hEq] at hEmit
        exact (ih _).trans hEmit

end Program

end Excerpt
