import Excerpt.Command.Bracket
import Excerpt.Disk
import Excerpt.Text.Quoted

/-!
# Faults

Everything that can go wrong with a command, its source or a document, by cause. The wording of
each cause stands in one place, and so does the kind to which it belongs. Who is told of what goes
on may raise anything.

* `kind_of_cause`: only what the system or the decoder refused was raised for something else.
* `isSnippet_iff`: the kinds that belong to the domain.
-/

namespace Excerpt

/-- The kinds under which faults are reported: those of the domain, those of the numbers and paths
that it uses, what the system reports itself, and what is foreign to all of these. -/
inductive FaultKind where
  | snippet
  | parse
  | range
  | notFound
  | document
  | value
  | overflow
  | system (label : String)
  | foreign (label : String)
  deriving DecidableEq, Repr

/-- What the system failed to do with a file: to open it, or to read or write all of it. -/
inductive SystemFailure where
  | opening (cause : SystemError)
  | transfer (cause : SystemError)
  deriving DecidableEq, Repr

/-- A cause of failure. -/
inductive Fault where
  -- the command and its selectors
  | malformedCommand (line : Text)
  | malformedTarget (line : Text)
  | missingBlockId (line : Text)
  | textBehindCommand (rest : Text)
  | repeatedBracket (bracket : Bracket) (suffixes : Text)
  | unbalancedBracket (bracket : Bracket) (rest : Text)
  | unreadable (what token : Text)
  | emptyBlock
  | lineOutOfRange (line : Int)
  | rangeOutOfRange (first last : Int)
  | rangeReversed (first last : Int)
  | invalidColumns (line first last : Int)
  | noBlockToCountFrom
  | optionWithoutValue (option : Text)
  | invalidSwitch (key value : Text)
  | invalidInteger (key value : Text)
  -- the source
  | columnsBehindLine (first last : Nat) (line : Int) (length : Nat)
  | sourceNotOpened (path : Path) (failure : SystemFailure)
  | sourceNotDecoded (path : Path) (cause : Utf8.Flaw)
  | blockNotFound (id : Text) (path : Path)
  -- the document
  | documentNotOpened (path : Path) (failure : SystemFailure)
  | documentNotDecoded (path : Path) (cause : Utf8.Flaw)
  | outputNotWritten (path : Path) (failure : SystemFailure)
  -- limits
  | numeralTooLong (digits : Nat)
  | numberTooLong
  | sizeTooLarge
  | nullCharacter
  | pathWithoutName (path : Path)
  | invalidName (name : Text)
  -- from elsewhere
  | brokenOff (cause : SystemError)
  | raised (kind : FaultKind) (message : String)
  deriving DecidableEq, Repr

namespace FaultKind

def label : FaultKind → String
  | .snippet => "SnippetError"
  | .parse => "SnippetParseError"
  | .range => "SnippetRangeError"
  | .notFound => "SnippetNotFoundError"
  | .document => "DocumentError"
  | .value => "ValueError"
  | .overflow => "OverflowError"
  | .system label | .foreign label => label

/-- Whether the kind belongs to the domain. -/
def isSnippet : FaultKind → Bool
  | .snippet | .parse | .range | .notFound | .document => true
  | .value | .overflow | .system _ | .foreign _ => false

theorem isSnippet_iff (k : FaultKind) :
    k.isSnippet = true ↔ k ∈ [.snippet, .parse, .range, .notFound, .document] := by
  cases k <;> simp [isSnippet]

/-- The labels of a kind and of the more general kinds it counts as, the most special first. -/
def lineage (k : FaultKind) : List String :=
  let general := ["Exception", "BaseException", "object"]
  let snippet := ["SnippetError", "RuntimeError"]
  match k with
  | .snippet => snippet ++ general
  | .parse => k.label :: snippet ++ "ValueError" :: general
  | .range => k.label :: snippet ++ ["IndexError", "LookupError"] ++ general
  | .notFound => k.label :: snippet ++ "LookupError" :: general
  | .document => k.label :: snippet ++ general
  | .value => k.label :: general
  | .overflow => k.label :: "ArithmeticError" :: general
  | .system label => (if label = "OSError" then [label] else [label, "OSError"]) ++ general
  | .foreign label => label :: general

end FaultKind

namespace SystemError

/-- The number under which the system reports the error. -/
def number : SystemError → Nat
  | .missing => 2
  | .notDirectory => 20
  | .isDirectory => 21
  | .nameTooLong => 36
  | .other number _ _ => number

def description : SystemError → String
  | .missing => "No such file or directory"
  | .notDirectory => "Not a directory"
  | .isDirectory => "Is a directory"
  | .nameTooLong => "File name too long"
  | .other _ _ description => description

def label : SystemError → String
  | .missing => "FileNotFoundError"
  | .notDirectory => "NotADirectoryError"
  | .isDirectory => "IsADirectoryError"
  | .nameTooLong => "OSError"
  | .other _ label _ => label

/-- The message of the system when it breaks off. -/
def message (e : SystemError) : String := s!"[Errno {e.number}] {e.description}"

end SystemError

/-- The label under which the system reports its failure. -/
def SystemFailure.label : SystemFailure → String
  | .opening e | .transfer e => e.label

namespace Fault

/-- A text as it is written in a message. -/
def plain (t : Text) : String := String.ofList t

/-- A text between quotes. -/
def inQuotes (t : Text) : String := String.ofList t.quoted

/-- A path as it is written in a message. -/
def pathText (p : Path) : String := String.ofList p.toText

/-- The message of the system about a file. What breaks off does not know its path. -/
def systemMessage (path : Path) : SystemFailure → String
  | .opening e => s!"{e.message}: {inQuotes path.toText}"
  | .transfer e => e.message

/-- The message of the decoder. -/
def flawMessage (flaw : Utf8.Flaw) : String :=
  let reason := match flaw.reason with
    | .invalidStart => "invalid start byte"
    | .invalidContinuation => "invalid continuation byte"
    | .unexpectedEnd => "unexpected end of data"
  match flaw.bytes with
  | [b] =>
    let byte := String.ofList (Quoted.hex 2 b.toNat)
    s!"'utf-8' codec can't decode byte 0x{byte} in position {flaw.position}: {reason}"
  | bytes =>
    let last := flaw.position + bytes.length - 1
    s!"'utf-8' codec can't decode bytes in position {flaw.position}-{last}: {reason}"

/-- The most digits of a numeral that is read or written. -/
def digitLimit : Nat := 4300

/-- The largest number that counts characters or lines. -/
def sizeLimit : Nat := 9223372036854775807

def kind : Fault → FaultKind
  | .columnsBehindLine .. => .range
  | .sourceNotOpened .. | .sourceNotDecoded .. | .blockNotFound .. => .notFound
  | .documentNotOpened .. | .documentNotDecoded .. | .outputNotWritten .. => .document
  | .numeralTooLong _ | .numberTooLong | .nullCharacter | .pathWithoutName _
  | .invalidName _ => .value
  | .sizeTooLarge => .overflow
  | .brokenOff cause => .system cause.label
  | .raised kind _ => kind
  | _ => .parse

/-- The wording of a fault. -/
def message : Fault → String
  | .malformedCommand line =>
    s!"Line does not hold a well-formed snippet command: {inQuotes line}"
  | .malformedTarget line =>
    s!"Command target must be '<file>:<range or id>': {inQuotes line}"
  | .missingBlockId line => s!"Missing block identifier: {inQuotes line}"
  | .textBehindCommand rest => s!"Unexpected text after command: {inQuotes rest}"
  | .repeatedBracket b suffixes =>
    s!"Suffix '{b.opener}{b.closer}' given more than once: {inQuotes suffixes}"
  | .unbalancedBracket b rest =>
    s!"Unbalanced '{b.opener}' in selector suffix: {inQuotes rest}"
  | .unreadable what token => s!"Could not parse {plain what} from {inQuotes token}."
  | .emptyBlock => "Empty block in selector."
  | .lineOutOfRange line => s!"Line number {line} is out of range; lines start at 1."
  | .rangeOutOfRange first last =>
    s!"Line range {first}-{last} is out of range; lines start at 1."
  | .rangeReversed first last => s!"Line range {first}-{last} ends before it starts."
  | .invalidColumns line first last =>
    s!"Character range {first}-{last} on line {line} is invalid."
  | .noBlockToCountFrom => "Relative selectors need a resolved code block."
  | .optionWithoutValue option => s!"Option '{plain option}' is missing a value."
  | .invalidSwitch key value =>
    s!"Could not parse boolean option '{plain key}={plain value}'."
  | .invalidInteger key value =>
    s!"Could not parse integer option '{plain key}={plain value}'."
  | .columnsBehindLine first last line length =>
    s!"Visual range {first}-{last} ends after line {line} ({length} characters)."
  | .sourceNotOpened path _ => s!"Could not open source file '{pathText path}'."
  | .sourceNotDecoded path _ => s!"Could not decode source file '{pathText path}'."
  | .blockNotFound id path => s!"No block '{plain id}' found in '{pathText path}'."
  | .documentNotOpened path _ | .documentNotDecoded path _ =>
    s!"Could not read document '{pathText path}'."
  | .outputNotWritten path _ => s!"Could not write output file '{pathText path}'."
  | .numeralTooLong digits =>
    s!"Exceeds the limit ({digitLimit} digits) for integer string conversion: " ++
      s!"value has {digits} digits; use sys.set_int_max_str_digits() to increase the limit"
  | .numberTooLong =>
    s!"Exceeds the limit ({digitLimit} digits) for integer string conversion; " ++
      "use sys.set_int_max_str_digits() to increase the limit"
  | .sizeTooLarge => "cannot fit 'int' into an index-sized integer"
  | .nullCharacter => "embedded null byte"
  | .pathWithoutName path => s!"PosixPath({inQuotes path.toText}) has an empty name"
  | .invalidName name => s!"Invalid name {inQuotes name}"
  | .brokenOff cause => cause.message
  | .raised _ message => message

/-- What the fault was raised for, as a label and a wording, if anything. -/
def cause? : Fault → Option (String × String)
  | .sourceNotOpened path failure | .documentNotOpened path failure
  | .outputNotWritten path failure => some (failure.label, systemMessage path failure)
  | .sourceNotDecoded _ flaw | .documentNotDecoded _ flaw =>
    some ("UnicodeDecodeError", flawMessage flaw)
  | _ => none

/-- The fault of a source that could not be opened. -/
def ofSource (path : Path) : OpenError → Fault
  | .nullCharacter => .nullCharacter
  | .system e => .sourceNotOpened path (.opening e)

/-- The fault of a document that could not be read. -/
def ofDocument (path : Path) : FileError Bytes → Fault
  | .notOpened .nullCharacter => .nullCharacter
  | .notOpened (.system e) => .documentNotOpened path (.opening e)
  | .broken _ e => .documentNotOpened path (.transfer e)

/-- The fault of an output that could not be written. -/
def ofOutput (path : Path) : FileError Disk → Fault
  | .notOpened .nullCharacter => .nullCharacter
  | .notOpened (.system e) => .outputNotWritten path (.opening e)
  | .broken _ e => .outputNotWritten path (.transfer e)

/-- Only what the system or the decoder refused has a cause. -/
theorem kind_of_cause {f : Fault} {c : String × String} (h : f.cause? = some c) :
    f.kind = .notFound ∨ f.kind = .document := by
  cases f <;> simp [cause?] at h <;> simp [kind]

end Fault

end Excerpt
