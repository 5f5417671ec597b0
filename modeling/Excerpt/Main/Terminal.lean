import Excerpt.Console.Terminal
import Excerpt.Main.CommandLine
import Excerpt.Main.Markup

/-!
# The terminal

Every line fits on the screen, which has no colours, and every character can be written to it. What
has markup is printed as it is rendered, all else as it is.

* `terminal_refusesClosingTags`: what was not opened cannot be closed.
-/

namespace Excerpt

namespace MarkupError

/-- The inside of the closing tag that no tag is open for. -/
def tagText (name : Text) (parameters : Option Text) : Text :=
  match parameters with
  | none => '[' :: name ++ [']']
  | some parameters => '[' :: name ++ '=' :: parameters ++ [']']

def message : MarkupError → String
  | .unmatched name parameters position _ =>
    s!"closing tag '{Fault.plain (tagText name parameters)}' at position {position} " ++
      "doesn't match any open tag"
  | .nothingOpen position => s!"closing tag '[/]' at position {position} has nothing to close"
  | .handler e => e.message
  | .color e => e.message

/-- The label of an error. A colour is refused by its own reader, all else as markup. -/
def label : MarkupError → Text
  | .color _ => ColorError.label.toList
  | _ => "MarkupError".toList

/-- What the error was met as, if as something else: a name that is not there, a last tag that is
not there, or what is wrong with the parameters of a handler. -/
def origin? : MarkupError → Option Incident
  | .unmatched _ _ _ sought => some (.ofLabel Incident.keyLabel sought)
  | .nothingOpen _ => some (.ofLabel "IndexError".toList "pop from empty list".toList)
  | .handler e => some (.ofLabel e.origin.1.toList e.origin.2.toList)
  | .color _ => none

/-- The error as a terminal reports it. -/
def shown (e : MarkupError) : ShowError := ⟨e.label, e.message.toList, e.origin?⟩

end MarkupError

namespace Screen

/-- What is printed of a text with markup. -/
def rendered (t : Text) : Except ShowError Text :=
  ((Markup.render t).map printed).mapError MarkupError.shown

/-- The lines of the failures that stand behind each other, the first one last. -/
def tracebackLines (incidents : Incidents) : List Text :=
  ((incidents.walk (some 0)).filterMap fun i => incidents[i]?.map fun incident =>
    incident.label ++ ':' :: ' ' :: incident.text).reverse

/-- The screen as a terminal. -/
def terminal : Terminal where
  info := rendered
  summary := rendered
  echo t := .ok (t ++ ['\n'])
  note := printed
  refusal why := usage ++ "Error: ".toList ++ printed why
  traceback _ incidents := printed (Text.join ['\n'] (tracebackLines incidents))

theorem terminal_refusesClosingTags : terminal.RefusesClosingTags := by
  intro before name after hBracket hBackslash hName hEnd
  obtain ⟨e, hRender⟩ :=
    Markup.exists_render_closing_error hBracket hBackslash hName hEnd after
  change ∃ e, rendered (before ++ '[' :: '/' :: name ++ ']' :: after) = .error e
  rw [rendered, hRender]
  exact ⟨_, rfl⟩

end Screen

end Excerpt
