import Excerpt.Datum
import Excerpt.Table

/-!
# The console

How much a console tells, whether it tells where a failure comes from, and under each name the
events that it has recorded, in order, until somebody consumes them.

* `recorded_record_self`, `recorded_record_of_ne`: an event is stored behind those of its name.
* `recorded_consume_self`, `recorded_consume_of_ne`: what is consumed is gone, and nothing else is.
-/

namespace Excerpt

/-- A console between two commands. -/
structure Console where
  verbosity : Nat := 0
  tracebacks : Bool := false
  events : Table Text (List Fields) := []

namespace Console

/-- Sets what is given. The verbosity does not fall below zero. -/
def configure (console : Console) (verbosity : Option Int) (tracebacks : Option Bool) : Console :=
  { console with
    verbosity := (verbosity.map Int.toNat).getD console.verbosity
    tracebacks := tracebacks.getD console.tracebacks }

/-- Whether details for debugging are wanted, unless somebody decided that already. -/
def isDebugging (console : Console) (decided : Option Bool) : Bool :=
  decided.getD console.tracebacks

/-! ## Events -/

/-- The events that are stored under a name. -/
def recorded (console : Console) (name : Text) : List Fields :=
  (console.events.lookup name).getD []

/-- Records an event. -/
def record (console : Console) (name : Text) (fields : Fields) : Console :=
  { console with events := console.events.put name (console.recorded name ++ [fields]) }

/-- Takes away the events of a name. -/
def forget (console : Console) (name : Text) : Console :=
  { console with events := console.events.remove name }

/-- The events of a name, and the console without them. -/
def consume (console : Console) (name : Text) : List Fields × Console :=
  (console.recorded name, console.forget name)

/-! ## Laws -/

theorem recorded_record_self (console : Console) (name : Text) (fields : Fields) :
    (console.record name fields).recorded name = console.recorded name ++ [fields] :=
  congrArg (Option.getD · []) (Table.lookup_put_self console.events name _)

theorem recorded_record_of_ne (console : Console) {name other : Text} (h : other ≠ name)
    (fields : Fields) : (console.record name fields).recorded other = console.recorded other :=
  congrArg (Option.getD · []) (Table.lookup_put_of_ne h console.events _)

theorem recorded_consume_self (console : Console) (name : Text) :
    (console.consume name).2.recorded name = [] :=
  congrArg (Option.getD · []) (Table.lookup_remove_self console.events name)

theorem recorded_consume_of_ne (console : Console) {name other : Text} (h : other ≠ name) :
    (console.consume name).2.recorded other = console.recorded other :=
  congrArg (Option.getD · []) (Table.lookup_remove_of_ne h console.events)

end Console

end Excerpt
