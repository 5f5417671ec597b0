import Excerpt.Insertion

/-!
# Documents

A document is read as a whole, its lines are replaced one by one, and only when all of them have
succeeded is the output written, the lines with line feeds between them. The code is always that
of the disk as it was before. The output is written over whatever is there, so if it breaks off
that is lost.

* `process_of_expand_error`: a document whose lines fail leaves the disk as it was.
* `process_of_expand_ok`: any other one comes to be written.
-/

namespace Excerpt

namespace Document

/-- The lines of a document. -/
def readLines (disk : Disk) (path : Path) : Except Fault (List Text) :=
  match disk.read path with
  | .error e => .error (.ofDocument path e)
  | .ok content =>
    match Utf8.decode content with
    | .error flaw => .error (.documentNotDecoded path flaw)
    | .ok t => .ok (Text.lines isDocumentBreak t)

/-- What is reported of a document that was processed. -/
structure Report where
  input : Path
  output : Path
  lines : Nat
  commands : Nat
  skipped : Nat
  deriving DecidableEq, Repr

/-- The number of commands that were replaced. -/
def Report.inserted (r : Report) : Nat := r.commands - r.skipped

/-- The number of command lines that stand in the output as they were. -/
def countSkipped (lines expanded : List Text) : Nat :=
  (lines.zip expanded).countP fun (line, text) => isCommandLine line && text == line

/-- The text of the output. -/
def outputText (expanded : List Text) : Text := Text.join ['\n'] expanded

/-- The lines of a document and what replaces them, in front of a listener. -/
def expand (sources : Sources) (listener : Listener) (input : Path) :
    Session (List Text × List Text) := do
  let lines ← Session.lift (readLines sources.disk input)
  let expanded ← lines.mapM (expandLine sources listener)
  pure (lines, expanded)

/-- The report of a document with the given lines, for the texts that replace them. -/
def reportOf (input output : Path) (lines expanded : List Text) : Report :=
  ⟨input, output, lines.length, lines.countP isCommandLine, countSkipped lines expanded⟩

/-- The end of a document behind the given notices: its text is written, and it is reported. An
output that is not opened leaves the disk as it was, one that breaks off does not. -/
def writeOut (disk : Disk) (output : Path) (text : Text) (notices : List Notice)
    (report : Report) : Disk × Journal Report :=
  match disk.write output (Utf8.encode text) with
  | .error (.notOpened e) => (disk, ⟨notices, .error (.ofOutput output (.notOpened e))⟩)
  | .error (.broken left cause) => (left, ⟨notices, .error (.ofOutput output (.broken left cause))⟩)
  | .ok written =>
    (written, ⟨notices ++ [.processed report.input report.commands report.skipped], .ok report⟩)

/-- The disk behind a document that was processed, and the journal of it. -/
def process (sources : Sources) (input output : Path) (listener : Listener := .keeping) :
    Disk × Journal Report :=
  let expansion := expand sources listener input []
  match expansion.outcome with
  | .error fault => (sources.disk, ⟨expansion.notices, .error fault⟩)
  | .ok (lines, expanded) =>
    writeOut sources.disk output (outputText expanded) expansion.notices
      (reportOf input output lines expanded)

/-- Adds a path to a list unless it is there. -/
def addNew (paths : List Path) (path : Option Path) : List Path :=
  match path with
  | some path => if path ∈ paths then paths else paths ++ [path]
  | none => paths

/-- The files that a document depends on, each at its first use. -/
def dependencies (disk : Disk) (input root : Path) : Except Fault (List Path) :=
  match readLines disk input with
  | .error fault => .error fault
  | .ok lines =>
    match lines.mapM (dependency? root) with
    | .error fault => .error fault
    | .ok paths => .ok (paths.foldl addNew [])

/-! ## The name of the output -/

/-- What marks the name of a document whose output has the same name without it. -/
def rawMark : Text := ['_', 'r', 'a', 'w']

/-- The name of the output of any other document. -/
def indexName : Text := "index.html".toList

/-- Whether a text can be the last name of a path. -/
def isFileName (name : Text) : Bool := Path.isName name && !name.contains '/'

/-- The output of a document if none is given: beside it, without the mark of its name. -/
def defaultOutput (input : Path) : Except Fault Path :=
  if Text.occursIn rawMark input.name then
    let name := Text.eraseAll rawMark input.name
    if isFileName name then .ok (input.replaceName name) else .error (.invalidName name)
  else if input.name.isEmpty then .error (.pathWithoutName input)
  else .ok (input.replaceName indexName)

/-! ## Laws -/

variable {sources : Sources} {input output : Path} {listener : Listener}

theorem process_of_expand_error {fault : Fault}
    (h : (expand sources listener input []).outcome = .error fault) :
    process sources input output listener =
      (sources.disk, ⟨(expand sources listener input []).notices, .error fault⟩) := by
  simp only [process, h]

theorem process_of_expand_ok {lines expanded : List Text}
    (h : (expand sources listener input []).outcome = .ok (lines, expanded)) :
    process sources input output listener =
      writeOut sources.disk output (outputText expanded) (expand sources listener input []).notices
        (reportOf input output lines expanded) := by
  simp only [process, h]

end Document

end Excerpt
