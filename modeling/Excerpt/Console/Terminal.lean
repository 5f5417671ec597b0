import Excerpt.Fault.Incident

/-!
# Terminals

A terminal shows what a program has to say, and answers by the text alone. What goes to the
standard output may fail to be shown: because of the markup in it, or because its characters cannot
be written there. What goes to the standard error is shown as it is.

* `Terminal.RefusesClosingTags`: what is asked of the markup.
* `ShowError.length_incidents`: nothing that was being reported is lost behind a text that cannot
  be shown.
-/

namespace Excerpt

/-- What has been printed, to the standard output and to the standard error. -/
structure Printout where
  out : Text := []
  err : Text := []
  deriving DecidableEq, Repr

namespace Printout

/-- One printout behind another. -/
def append (first second : Printout) : Printout :=
  ⟨first.out ++ second.out, first.err ++ second.err⟩

instance : Append Printout := ⟨append⟩

end Printout

/-- Why a text cannot be shown: a failure, and what it was met as, if as something else. -/
structure ShowError where
  label : Text
  message : Text
  origin : Option Incident := none
  deriving DecidableEq, Repr

/-- What a terminal prints of a text: information and the summary of a run, both with markup, and a
plain line, on the standard output; a note that has its level in front, and why the command line is
refused, on the standard error; and there also a failure with all that is behind it, with or without
the values that were at hand. -/
structure Terminal where
  info : Text → Except ShowError Text
  summary : Text → Except ShowError Text
  echo : Text → Except ShowError Text
  note : Text → Text
  refusal : Text → Text
  traceback : (values : Bool) → Incidents → Text

/-- The terminal without markup, which prints every text as it is, on lines of its own. -/
def Terminal.plain : Terminal where
  info t := .ok (t ++ ['\n'])
  summary t := .ok (t ++ ['\n'])
  echo t := .ok (t ++ ['\n'])
  note t := t ++ ['\n']
  refusal t := t ++ ['\n']
  traceback _ incidents := incidents.flatMap fun incident => incident.text ++ ['\n']

/-- Whether the terminal refuses information with a closing tag in front of which no tag is
opened. -/
def Terminal.RefusesClosingTags (terminal : Terminal) : Prop :=
  ∀ before name after : Text, '[' ∉ before → '\\' ∉ before → '[' ∉ name → ']' ∉ name →
    ∃ e, terminal.info (before ++ '[' :: '/' :: name ++ ']' :: after) = .error e

namespace ShowError

/-- A fault that is met before anything is shown. -/
def ofFault (fault : Fault) : ShowError := ⟨fault.kind.label.toList, fault.message.toList, none⟩

/-- The failure, what it was met as, and the failures that were being reported then. -/
def incidents (e : ShowError) (reported : Incidents) : Incidents :=
  let own := ⟨e.label, e.message, none, none⟩ :: e.origin.toList
  let linked := own.mapIdx fun i incident =>
    if i + 1 = own.length && reported.isEmpty then incident
    else { incident with context := some (i + 1) }
  linked ++ reported.map fun incident =>
    { incident with
      cause := incident.cause.map (· + own.length)
      context := incident.context.map (· + own.length) }

theorem length_incidents (e : ShowError) (reported : Incidents) :
    (e.incidents reported).length = 1 + e.origin.toList.length + reported.length := by
  simp only [incidents, List.length_append, List.length_mapIdx, List.length_cons, List.length_map]
  omega

end ShowError

end Excerpt
