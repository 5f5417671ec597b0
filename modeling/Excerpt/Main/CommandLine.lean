import Excerpt.Console.CommandLine
import Excerpt.Main.Arguments

/-!
# The reader of command lines

A command line has switches, the name of a command, and what belongs to the command. It may also
ask for the version or for help, and that goes before all else that is readable. Where it cannot be
understood, the usage is shown. The document of a command has to be a file, and no directory may be
in the place of its output, nor a file in the place of the directory of the sources.

* `switches_of_read`: the switches are known as soon as the command is.
* `reader_countsVerbose`: switches that make a console more talkative are counted.
-/

namespace Excerpt

/-- How the program is used. -/
def usage : Text :=
  Text.join ['\n'] (["Usage: excerpt [-v]... [--debug | --no-debug] COMMAND",
    "       excerpt --version | --help",
    "Commands:",
    "  inject DOCUMENT [-o | --output PATH] [--code-root PATH]",
    "  deps DOCUMENT [--code-root PATH]"].map String.toList) ++ ['\n']

namespace Request

/-- The answer to a command line that cannot be followed. -/
def refused : Request := .answered { err := usage } 2

def help : Request := .answered { out := usage } 0

end Request

/-- The switches that were given. Of two that contradict each other the last counts. -/
def Switches.of (args : Arguments) : Switches :=
  let last := args.options.reverse.find? fun option => option.1 == .debug || option.1 == .noDebug
  ⟨args.count .verbose, last.any (·.1 == .debug)⟩

/-- The commands. -/
inductive Verb where
  | inject
  | deps
  deriving DecidableEq, Repr

namespace Verb

def ofName? (name : Text) : Option Verb :=
  if name = "inject".toList then some .inject
  else if name = "deps".toList then some .deps
  else none

/-- The options of a command. -/
def grammar : Verb → ArgumentGrammar
  | .inject => ⟨[.output, .root, .help], true⟩
  | .deps => ⟨[.root, .help], true⟩

/-- Reads what stands behind the name of a command: one document, and options. -/
def read (verb : Verb) (args : List Text) : Request :=
  match verb.grammar.read args with
  | none => .refused
  | some args =>
    if args.has .help then .help
    else match args.plain with
      | [document] =>
        let root := (args.value? .root).getD ['.']
        match verb with
        | .inject => .inject document (args.value? .output) root
        | .deps => .deps document root
      | _ => .refused

end Verb

namespace CommandLine

/-- The options in front of a command. -/
def grammar : ArgumentGrammar := ⟨[.verbose, .debug, .noDebug, .version, .help], false⟩

/-- What is answered at once: the first of the version and the help that is asked for. -/
def immediate? (args : Arguments) : Option Request :=
  args.options.findSome? fun
    | (.version, _) => some .version
    | (.help, _) => some .help
    | _ => none

/-- What becomes of a name that no command has: behind the end of the options it may still be an
option that is answered at once. -/
def readUnknown (args : List Text) : Request :=
  ((grammar.read args).bind immediate?).getD .refused

/-- Reads a command line. -/
def read (args : List Text) : CommandLine :=
  match grammar.read args with
  | none => ⟨none, .refused⟩
  | some args =>
    match immediate? args, args.plain with
    | some request, _ => ⟨none, request⟩
    | none, [] => ⟨none, .refused⟩
    | none, name :: rest =>
      match Verb.ofName? name with
      | none => ⟨none, readUnknown (name :: rest)⟩
      | some verb => ⟨some (.of args), verb.read rest⟩

/-! ## Paths -/

/-- What stands at a path in its written form, in which a trailing slash asks for a directory. -/
def find? (disk : Disk) (path : Text) : Option Entry :=
  if path.isEmpty || Disk.pathLimit ≤ Utf8.size path then none
  else
    let pieces := Text.splitOn '/' path
    let names := pieces.dropLast.filter (!·.isEmpty) ++
      pieces.getLast?.toList.map (fun last => if last.isEmpty then Path.here else last)
    match names.foldlM disk.step (disk.start (Root.ofText path)) with
    | .ok place => disk.get? place
    | .error _ => none

/-- Whether there is a file where a directory is needed. -/
def isFile (disk : Disk) (path : Text) : Bool :=
  match find? disk path with
  | some (.file _) => true
  | _ => false

/-- Whether there is a directory where a file is needed. -/
def isDirectory (disk : Disk) (path : Text) : Bool := find? disk path = some .directory

/-- Whether the request is for a document that is not there, or something else stands where a path
leads than is needed. -/
def isMisplaced (disk : Disk) (document : Text) (output : Option Text) (root : Text) : Bool :=
  !isFile disk (disk.resolve (Path.ofText document)).toText || isFile disk root ||
    output.any (isDirectory disk)

/-- The request, unless its paths cannot be looked up or something else stands there. -/
def checked (disk : Disk) (request : Request) : Request :=
  let check (document : Text) (output : Option Text) (root : Text) : Request :=
    if [document, output.getD [], root].any fun path => path.contains '\x00' then
      .failed .nullCharacter
    else if isMisplaced disk document output root then .refused
    else request
  match request with
  | .inject document output root => check document output root
  | .deps document root => check document none root
  | request => request

/-- Reads a command line on a disk. -/
def reader : Reader := fun disk args =>
  let line := read args
  { line with request := checked disk line.request }

/-! ## Laws -/

theorem switches_of_read {args plain : List Text} {given : Arguments} {name : Text} {verb : Verb}
    (h : grammar.read args = some given) (hNow : immediate? given = none)
    (hPlain : given.plain = name :: plain) (hVerb : Verb.ofName? name = some verb) :
    read args = ⟨some (.of given), verb.read plain⟩ := by
  simp [read, h, hNow, hPlain, hVerb]

theorem grammar_read_verbose (args : List Text) :
    grammar.read (verboseSwitch :: args) =
      (grammar.read args).map (·.addOptions [(.verbose, [])]) := by
  have hEnd : verboseSwitch ≠ Arguments.optionsEnd := by decide
  have hIs : ArgumentGrammar.isOption verboseSwitch = true := by decide
  have hOption : grammar.readOption verboseSwitch = some ⟨[(.verbose, [])], none⟩ := rfl
  rw [ArgumentGrammar.read, if_neg hEnd, if_pos hIs, hOption]

theorem switches_of_addOptions (given : Arguments) :
    Switches.of (given.addOptions [(.verbose, [])]) =
      { Switches.of given with verbosity := (Switches.of given).verbosity + 1 } := by
  simp [Switches.of, Arguments.addOptions, Arguments.count]

theorem read_verbose (args : List Text) : read (verboseSwitch :: args) = (read args).louder 1 := by
  unfold read
  rw [grammar_read_verbose]
  cases grammar.read args with
  | none => rfl
  | some given =>
    have hNow : immediate? (given.addOptions [(.verbose, [])]) = immediate? given := rfl
    have hPlain : (given.addOptions [(.verbose, [])]).plain = given.plain := rfl
    simp only [Option.map_some, hNow, hPlain, switches_of_addOptions]
    cases immediate? given with
    | some request => rfl
    | none =>
      cases given.plain with
      | nil => rfl
      | cons name rest =>
        dsimp only
        cases Verb.ofName? name <;> rfl

theorem reader_countsVerbose : Reader.CountsVerbose reader := by
  intro disk args
  unfold reader
  rw [read_verbose]
  rfl

end CommandLine

end Excerpt
