import Excerpt.Command
import Excerpt.Listener
import Excerpt.Render
import Excerpt.Source.Marker

/-!
# Insertions

A command line is replaced by the block of code that it names, between fences. The command is read
as a whole before its file is looked for, so a malformed command is a fault even if the file is
missing; a missing file or block leaves the line as it is and is told. So does a listener that
refuses a warning about the command by such a fault.

* `expandLine_of_not_command`: a line without a command stays.
* `expandLine_skipped`: so does a command whose source is not found.
* `dependency?_of_parse`: the file that a command depends on is the one that it reads.
-/

namespace Excerpt

/-- Where the code comes from: the disk, the path that file names begin at, and the table of
languages. -/
structure Sources where
  disk : Disk
  root : Path := ⟨.relative, []⟩
  languages : LanguageTable := .standard

/-- All that is needed to render one command. -/
structure Insertion where
  source : Text
  block : CodeBlock
  tag : Text
  highlights : Highlights
  edits : Edits
  options : RenderOptions
  deriving DecidableEq, Repr

namespace Insertion

/-- How the block is rendered. -/
def rendering (i : Insertion) : Rendering :=
  ⟨CommentStyle.ofTag i.tag, i.highlights, i.edits, i.options⟩

/-- The rendered lines, each with its end. -/
def text (i : Insertion) : Except Fault Text := i.rendering.text i.block

/-- The rendered lines between fences. -/
def fenced (i : Insertion) : Except Fault Text := i.text.map (fence · i.tag)

/-- The lines that a command names. -/
def resolve (sources : Sources) (c : Command) : Journal LineRange :=
  match c.address with
  | .lines range => pure range
  | .block id => Marker.locate sources.disk (c.sourcePath sources.root) id

/-- Reads a command line and the code that it names. -/
def build (sources : Sources) (line : Text) : Journal Insertion := do
  let command ← Journal.lift (Command.parse line)
  let options ← RenderOptions.read command.suffixes.options
  let highlights ← Journal.lift (readHighlights command.suffixes.highlight)
  let edits ← readEdits command.suffixes.edit
  let range ← resolve sources command
  let block ← Journal.lift
    (CodeBlock.read sources.disk (command.sourcePath sources.root) range)
  let highlights ← Journal.lift (highlights.toAbsolute range)
  let edits ← Journal.lift (edits.toAbsolute range)
  pure ⟨command.filename, block, sources.languages.tagOf command.filename, highlights, edits,
    options⟩

end Insertion

/-- What is told of a command line whose insertion has the given outcome, and what replaces it. -/
def answer (kind : CommandKind) (line : Text) : Except Fault Insertion → Journal Text
  | .error fault =>
    if fault.kind = .notFound then
      ⟨[.notProcessed kind.keyword line fault, .skipped line fault.message.toList], .ok line⟩
    else Journal.fail fault
  | .ok insertion => ⟨[.inserted insertion.source insertion.block.range], insertion.fenced⟩

/-- What replaces a line, in front of a listener. -/
def expandLine (sources : Sources) (listener : Listener) (line : Text) : Session Text :=
  match CommandKind.ofLine? line with
  | none => pure line
  | some kind => do
    let built ← ((Insertion.build sources line).heardBy listener).attempt
    (answer kind line built).heardBy listener

/-- The run of a line in front of a recorder that has heard nothing yet. -/
def Sources.run (sources : Sources) (recorder : Recorder) (line : Text) : Journal Text :=
  expandLine sources recorder.listener line []

/-- The file that a line depends on, if it is a command. -/
def dependency? (root : Path) (line : Text) : Except Fault (Option Path) :=
  if isCommandLine line then
    (Command.targetName line).map fun name => some (root.join (Path.ofText name))
  else .ok none

/-! ## Laws -/

theorem expandLine_of_not_command (sources : Sources) (listener : Listener) {line : Text}
    (h : isCommandLine line = false) : expandLine sources listener line = pure line := by
  have hk : CommandKind.ofLine? line = none := by simpa [isCommandLine] using h
  simp [expandLine, hk]

theorem expandLine_skipped (sources : Sources) {line : Text} {kind : CommandKind} {fault : Fault}
    (hKind : CommandKind.ofLine? line = some kind)
    (hBuild : (Insertion.build sources line).outcome = .error fault)
    (hFault : fault.kind = .notFound) (told : List Notice) :
    (expandLine sources .keeping line told).outcome = .ok line := by
  have hHeard (told : List Notice) :
      (Insertion.build sources line).heardBy .keeping told = Insertion.build sources line := by
    simp [Journal.heardBy, Listener.hear_keeping]
  simp only [expandLine, hKind, Session.attempt_bind, hHeard, hBuild]
  simp [answer, hFault, Journal.heardBy, Listener.hear_keeping]

theorem dependency?_of_parse {root : Path} {line : Text} {c : Command}
    (hLine : isCommandLine line = true) (h : Command.parse line = .ok c) :
    dependency? root line = .ok (some (c.sourcePath root)) := by
  simp [dependency?, hLine, Command.targetName_of_parse h, Except.map, Command.sourcePath]

end Excerpt
