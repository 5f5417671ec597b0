import Excerpt.Console.Terminal
import Excerpt.Disk

/-!
# Command lines

What a command line asks for, and the switches in front of it. Whoever reads the command line may
look at the disk: the document of a command has to be there. It answers by itself if it cannot
understand what it is given, and if it is asked for help.

* `Reader.CountsVerbose.replicate`: the switches that make a console more talkative are counted.
-/

namespace Excerpt

/-- What a command line asks for: what has been answered already, or a command, with the paths as
they are spelled. -/
inductive Request where
  | answered (printout : Printout) (exit : Nat)
  | failed (fault : Fault)
  | version
  | inject (document : Text) (output : Option Text) (root : Text)
  | deps (document root : Text)
  deriving DecidableEq, Repr

/-- The switches in front of a command. -/
structure Switches where
  verbosity : Nat
  tracebacks : Bool
  deriving DecidableEq, Repr

/-- A command line that was read. Without a command there are no switches. -/
structure CommandLine where
  switches : Option Switches
  request : Request
  deriving DecidableEq, Repr

namespace CommandLine

/-- The switch that makes a console more talkative. -/
def verboseSwitch : Text := ['-', 'v']

/-- The command line for a more talkative console. -/
def louder (line : CommandLine) (k : Nat) : CommandLine :=
  { line with switches := line.switches.map fun s => { s with verbosity := s.verbosity + k } }

theorem louder_zero (line : CommandLine) : line.louder 0 = line := by
  obtain ⟨switches, request⟩ := line
  cases switches <;> rfl

theorem louder_louder (line : CommandLine) (k n : Nat) :
    (line.louder k).louder n = line.louder (k + n) := by
  obtain ⟨switches, request⟩ := line
  cases switches with
  | none => rfl
  | some s => simp [louder, Nat.add_assoc]

end CommandLine

/-- Reads the arguments of a run. -/
abbrev Reader := Disk → List Text → CommandLine

/-- Whether the switch in front of a command line makes the console more talkative, and nothing
else. -/
def Reader.CountsVerbose (reader : Reader) : Prop :=
  ∀ disk args,
    reader disk (CommandLine.verboseSwitch :: args) = (reader disk args).louder 1

theorem Reader.CountsVerbose.replicate {reader : Reader} (h : reader.CountsVerbose) (disk : Disk)
    (args : List Text) (k : Nat) :
    reader disk (List.replicate k CommandLine.verboseSwitch ++ args) =
      (reader disk args).louder k := by
  induction k with
  | zero => exact (CommandLine.louder_zero _).symm
  | succ k ih => rw [List.replicate_succ, List.cons_append, h, ih, CommandLine.louder_louder]

end Excerpt
