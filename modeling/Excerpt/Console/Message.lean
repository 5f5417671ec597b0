import Excerpt.Console
import Excerpt.Console.Terminal
import Excerpt.Diagnostic

/-!
# Messages on a console

Information is printed to the standard output, with markup; all else to the standard error, with
its level in front. A more talkative console adds the text and the label of the failure that the
message is about, and then the failures behind it. Events are recorded in any case, and told by a
console that is talkative at all.

* `details_of_quiet`: a quiet console adds nothing.
* `emit_event_recorded`: an event is recorded whatever becomes of its message.
* `emit_verbosity`: nothing that is told makes a console more or less talkative.
-/

namespace Excerpt

/-- The level of a message. Only information is special. -/
structure MessageLevel where
  label : Text
  deriving DecidableEq, Repr

namespace MessageLevel

def info : MessageLevel := ⟨"info".toList⟩

def warning : MessageLevel := ⟨"warning".toList⟩

def error : MessageLevel := ⟨"error".toList⟩

end MessageLevel

namespace Console

/-! ## Details -/

/-- The line of a failure behind another. -/
def causeLine (incident : Incident) : Text :=
  ' ' :: ' ' :: incident.label ++ ':' :: ' ' :: incident.text

/-- The failures behind the one that stands first, under a heading. -/
def causeLines (incidents : Incidents) : List Text :=
  match incidents.causes 0 with
  | [] => []
  | causes => "caused by:".toList :: causes.map causeLine

/-- What is added to a message that is about a failure. -/
def details (verbosity : Nat) (message : Text) (incidents : Incidents) : List Text :=
  match incidents with
  | [] => []
  | incident :: _ =>
    let detail := Text.trim incident.text
    if verbosity = 0 then []
    else
      (if detail.isEmpty || Text.occursIn detail message then [] else [detail]) ++
        ("type: ".toList ++ incident.label) ::
        (if verbosity = 1 then [] else causeLines incidents)

/-! ## Printing -/

/-- Prints information. -/
def printInfo (terminal : Terminal) (message : Text) : Except ShowError Printout :=
  (terminal.info message).map fun t => { out := t }

/-- Prints a message that is no information. -/
def printNote (terminal : Terminal) (console : Console) (level : MessageLevel) (message : Text)
    (about : Option Incidents) : Printout :=
  let first := level.label ++ ':' :: ' ' :: message
  let lines := first :: details console.verbosity message (about.getD [])
  { err := terminal.note (Text.join ['\n'] lines) }

/-- Prints a message. -/
def printMessage (terminal : Terminal) (console : Console) (level : MessageLevel) (message : Text)
    (about : Option Incidents) : Except ShowError Printout :=
  if level = .info then printInfo terminal message
  else .ok (printNote terminal console level message about)

/-- Prints the message of an event, if it has one. -/
def printEvent (terminal : Terminal) (name : Text) (fields : Fields) : Except ShowError Printout :=
  match Diagnostic.eventMessage? name fields with
  | none => .ok {}
  | some message =>
    if (Diagnostic.event name fields).isUnwritable then .error (.ofFault .numberTooLong)
    else printInfo terminal message

/-- Tells a diagnostic: the console behind it, and what has been printed. -/
def emit (terminal : Terminal) (console : Console) :
    Diagnostic → Console × Except ShowError Printout
  | .warning message about => (console, .ok (printNote terminal console .warning message about))
  | .error message about => (console, .ok (printNote terminal console .error message about))
  | .event name fields =>
    (console.record name fields,
      if console.verbosity = 0 then .ok {} else printEvent terminal name fields)

/-! ## Laws -/

theorem details_of_quiet (message : Text) (incidents : Incidents) :
    details 0 message incidents = [] := by
  cases incidents <;> simp [details]

theorem emit_event_recorded (terminal : Terminal) (console : Console) (name : Text)
    (fields : Fields) :
    (emit terminal console (.event name fields)).1.recorded name =
      console.recorded name ++ [fields] :=
  recorded_record_self console name fields

theorem emit_verbosity (terminal : Terminal) (console : Console) (diagnostic : Diagnostic) :
    (emit terminal console diagnostic).1.verbosity = console.verbosity := by
  cases diagnostic <;> rfl

end Console

end Excerpt
