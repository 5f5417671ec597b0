import Excerpt.Main.Expression.Value
import Excerpt.Text.Blank
import Excerpt.Text.Quoted

/-!
# Handlers

A tag whose name begins with an at sign calls a handler once it is closed. Its parameters are the
name of the handler with arguments in brackets, or arguments alone; the arguments must have a value
of their own. A tag without parameters, or with a name alone, has no arguments.

* `check_of_nil`: a tag without parameters calls without arguments.
* `argument_of_name`: a name alone calls without arguments.
-/

namespace Excerpt

/-- Why the parameters of a handler cannot be taken. -/
inductive HandlerError where
  | unreadable (argument parameters : Text) (r : Expression.Refusal)
  | noValue (parameters : Text) (flaw : Expression.ValueFlaw)
  deriving DecidableEq, Repr

namespace HandlerError

def message : HandlerError → String
  | .unreadable argument parameters r =>
    s!"error parsing {Fault.inQuotes argument} in {Fault.inQuotes parameters}; " ++ r.flaw.message
  | .noValue parameters flaw =>
    s!"error parsing {Fault.inQuotes parameters}; " ++ flaw.message

/-- The label and the wording of what the error was met as. -/
def origin : HandlerError → String × String
  | .unreadable _ _ r => (r.flaw.label, r.text)
  | .noValue _ flaw => (flaw.label, flaw.message)

end HandlerError

namespace Handler

/-- Whether the character can stand in the name of a handler. -/
def isNamePart (c : Char) : Bool := isWordPart c || c == '.'

/-- Whether a text is one line between round brackets. -/
def isBracketed (t : Text) : Bool :=
  match t with
  | '(' :: rest => rest.getLast? == some ')' && !rest.contains '\n'
  | _ => false

/-- The arguments among the parameters. -/
def argument (parameters : Text) : Text :=
  let behind := (Text.trim parameters).dropWhile isNamePart
  if behind.isEmpty then "()".toList
  else if isBracketed behind then behind
  else Text.trim parameters

/-- Refuses parameters whose arguments have no value. -/
def check (parameters : Text) : Except HandlerError Unit :=
  if parameters.isEmpty then .ok ()
  else match Expression.read (argument parameters) with
    | .error r => .error (.unreadable (argument parameters) parameters r)
    | .ok tree =>
      match tree.value with
      | .error flaw => .error (.noValue parameters flaw)
      | .ok _ => .ok ()

/-! ## Laws -/

theorem check_of_nil : check [] = .ok () := rfl

theorem argument_of_name {parameters : Text}
    (h : ∀ c ∈ Text.trim parameters, isNamePart c = true) :
    argument parameters = "()".toList := by
  have hDrop : (Text.trim parameters).dropWhile isNamePart = [] := by
    rw [← List.append_nil (Text.trim parameters), List.dropWhile_append_of_pos h,
      List.dropWhile_nil]
  simp [argument, hDrop]

end Handler

end Excerpt
