import Excerpt.Diagnostic

/-!
# The log

A log has an entry for every diagnostic and every trace. Events with a message are informations,
all others are written out for debugging, with their fields.

* `ofNotice_warning`: a warning keeps its message and names the failure it is about.
-/

namespace Excerpt

inductive LogLevel where
  | debug
  | info
  | warning
  | error
  deriving DecidableEq, Repr

def LogLevel.label : LogLevel → String
  | .debug => "DEBUG"
  | .info => "INFO"
  | .warning => "WARNING"
  | .error => "ERROR"

/-- One entry: its level, its message, and the label of the failure it is about. -/
structure LogEntry where
  level : LogLevel
  message : Text
  failure : Option Text := none
  deriving DecidableEq, Repr

namespace LogEntry

/-- The label of the failure that stands first. -/
def labelOf (about : Option Incidents) : Option Text :=
  about.bind fun incidents => incidents.head?.map Incident.label

/-- The entry of a diagnostic. -/
def ofDiagnostic : Diagnostic → LogEntry
  | .warning message about => ⟨.warning, message, labelOf about⟩
  | .error message about => ⟨.error, message, labelOf about⟩
  | .event name fields =>
    match Diagnostic.eventMessage? name fields with
    | some message => ⟨.info, message, none⟩
    | none =>
      ⟨.debug, "diagnostic event ".toList ++ name ++ ':' :: ' ' :: (Datum.record fields).written,
        none⟩

/-- The entry of a notice. -/
def ofNotice (notice : Notice) : LogEntry :=
  match notice, Diagnostic.ofNotice? notice with
  | _, some diagnostic => ofDiagnostic diagnostic
  | .located id line path, _ =>
    ⟨.debug, s!"Found block '{Fault.plain id}' on line {line} of {Fault.pathText path}".toList,
      none⟩
  | .processed path commands kept, _ =>
    ⟨.debug, (s!"Processed {Fault.pathText path}: {commands} commands, " ++
      s!"{kept} kept unprocessed").toList, none⟩
  | _, none => ⟨.debug, [], none⟩

theorem ofNotice_warning {notice : Notice} {message : Text} {about : Option Incidents}
    (h : Diagnostic.ofNotice? notice = some (.warning message about)) :
    ofNotice notice = ⟨.warning, message, labelOf about⟩ := by
  simp [ofNotice, h, ofDiagnostic]

end LogEntry

end Excerpt
