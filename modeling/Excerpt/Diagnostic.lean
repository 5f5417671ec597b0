import Excerpt.Datum
import Excerpt.Fault.Incident
import Excerpt.Journal

/-!
# Diagnostics

What a program tells its user: warnings and errors, with the failure they are about, and named
events with fields. Two events have a message of their own, which cannot be written if a number in
it has too many digits. Every notice of a journal is a diagnostic, except for the traces.

* `eventMessage_inserted`, `eventMessage_skipped`: the messages of the two events of a command.
* `ofNotice?_eq_none_iff`: the traces are the notices that are no diagnostics.
-/

namespace Excerpt

namespace Datum

mutual

/-- Whether there is a number of more digits than can be written in a datum. -/
def isUnwritable : Datum → Bool
  | .int n => LineRange.isUnwritable n
  | .list items => anyUnwritable items
  | .record fields => anyUnwritableField fields
  | .null | .bool _ | .text _ => false

def anyUnwritable : List Datum → Bool
  | [] => false
  | item :: rest => isUnwritable item || anyUnwritable rest

def anyUnwritableField : List (Text × Datum) → Bool
  | [] => false
  | (_, value) :: rest => isUnwritable value || anyUnwritableField rest

end

end Datum

/-- Something that the user is told. -/
inductive Diagnostic where
  | warning (message : Text) (about : Option Incidents)
  | error (message : Text) (about : Option Incidents)
  | event (name : Text) (fields : Fields)

namespace Diagnostic

def insertedName : Text := "snippet_inserted".toList

def skippedName : Text := "snippet_skipped".toList

/-- A field as it is shown, if there is something in it. -/
def shown (value : Datum) : Text :=
  if value.isTruthy then value.display else "<unknown>".toList

/-- The lines of an event, if it has both. -/
def span (first last : Datum) : Text :=
  if first.isNull || last.isNull then []
  else ':' :: first.display ++ '-' :: last.display

/-- The message of an event, if it has one. -/
def eventMessage? (name : Text) (fields : Fields) : Option Text :=
  if name = insertedName then
    some ("Inserted snippet from ".toList ++ shown (fields.get "source") ++
      span (fields.get "start") (fields.get "end"))
  else if name = skippedName then
    some ("Kept unprocessed command: ".toList ++ shown (fields.get "line"))
  else none

/-- The fields that the message of an event spells out. -/
def spelledFields (name : Text) (fields : Fields) : List Datum :=
  let given (key : String) : List Datum :=
    if (fields.get key).isTruthy then [fields.get key] else []
  let (first, last) := (fields.get "start", fields.get "end")
  if name = insertedName then
    given "source" ++ if first.isNull || last.isNull then [] else [first, last]
  else if name = skippedName then given "line"
  else []

/-- Whether the message of an event cannot be written. -/
def isUnwritable : Diagnostic → Bool
  | .event name fields => (spelledFields name fields).any Datum.isUnwritable
  | .warning .. | .error .. => false

/-- The diagnostic that a notice is. -/
def ofNotice? : Notice → Option Diagnostic
  | .editWithoutKind block =>
    some (.warning (s!"No visual modification type set for block '{Fault.plain block}', " ++
      "defaulting to hiding lines.").toList none)
  | .unknownOption key =>
    some (.warning s!"Did not understand option key: {Fault.plain key}".toList none)
  | .notProcessed keyword line fault =>
    some (.warning
      s!"Could not process {Fault.plain keyword} line: {Fault.plain line}".toList
      fault.incidents)
  | .inserted source range =>
    some (.event insertedName [("source".toList, .text source),
      ("start".toList, .int range.first), ("end".toList, .int range.last)])
  | .skipped line reason =>
    some (.event skippedName [("line".toList, .text line), ("reason".toList, .text reason)])
  | .located .. | .processed .. => none

/-- Whether a notice is only meant for a log. -/
def IsTrace : Notice → Prop
  | .located .. | .processed .. => True
  | _ => False

theorem ofNotice?_eq_none_iff (notice : Notice) : ofNotice? notice = none ↔ IsTrace notice := by
  cases notice <;> simp [ofNotice?, IsTrace]

theorem eventMessage_inserted (fields : Fields) :
    eventMessage? insertedName fields =
      some ("Inserted snippet from ".toList ++ shown (fields.get "source") ++
        span (fields.get "start") (fields.get "end")) := by
  simp [eventMessage?]

theorem eventMessage_skipped (fields : Fields) :
    eventMessage? skippedName fields =
      some ("Kept unprocessed command: ".toList ++ shown (fields.get "line")) := by
  have h : skippedName ≠ insertedName := by decide
  simp [eventMessage?, h]

end Diagnostic

end Excerpt
