import Excerpt.Journal
import Excerpt.Text.Blank
import Excerpt.Text.LowerCase
import Excerpt.Selector.Numbers

/-!
# Options of a command

Options are pairs of a key and a value with commas between them. A later pair for the same key
wins, a key that is not known is told and passed over, and a value that cannot be read is a fault,
whatever follows it.

* `read_none`: without options the lines are left as they are.
* `switchOf?_true`, `switchOf?_false`: the values of a switch, in any case.
-/

namespace Excerpt

/-- What is done with every line at the end: the change of its indentation, and whether comment
lines are dropped. -/
structure RenderOptions where
  indent : Int := 0
  hideComments : Bool := false
  deriving DecidableEq, Repr

namespace RenderOptions

def commentsKey : Text := "comments".toList

def indentKey : Text := "indent".toList

/-- The values that switch something on. -/
def onValues : List Text := ["1".toList, "t".toList, "true".toList]

/-- The values that switch something off. -/
def offValues : List Text := ["0".toList, "f".toList, "false".toList]

/-- The meaning of the value of a switch. -/
def switchOf? (value : Text) : Option Bool :=
  let value := (Text.trim value).lower
  if onValues.contains value then some true
  else if offValues.contains value then some false
  else none

/-- The digits of an integer and whether it is negative. -/
def signedDigits? (t : Text) : Option (Bool × List Nat) :=
  match t with
  | '+' :: rest => (Numeral.digits? rest).map (false, ·)
  | '-' :: rest => (Numeral.digits? rest).map (true, ·)
  | _ => (Numeral.digits? t).map (false, ·)

/-- Reads the value of an integer option. -/
def readInteger (key value : Text) : Except Fault Int :=
  match signedDigits? value.trim with
  | none => .error (.invalidInteger key value)
  | some (negative, digits) =>
    (numberOf digits).map fun n => if negative then -(n : Int) else n

/-- Reads the value of a switch. -/
def readSwitch (key value : Text) : Except Fault Bool :=
  match switchOf? value with
  | none => .error (.invalidSwitch key value)
  | some on => .ok on

/-- Reads one pair on top of the options before it. -/
def readPair (options : RenderOptions) (pair : Text) : Journal RenderOptions :=
  match Text.cut '=' pair with
  | none => Journal.fail (.optionWithoutValue pair)
  | some (key, value) =>
    let key := (Text.trim key).lower
    if key = commentsKey then
      Journal.lift ((readSwitch key value).map fun on => { options with hideComments := !on })
    else if key = indentKey then
      Journal.lift ((readInteger key value).map fun n => { options with indent := n })
    else do
      Journal.tell (.unknownOption key)
      pure options

/-- The pairs of a text, trimmed; blank ones mean nothing. -/
def pairs (t : Text) : List Text :=
  ((Text.splitOn ',' t).map Text.trim).filter (!·.isEmpty)

/-- Reads the options of a command. -/
def read : Option Text → Journal RenderOptions
  | none => pure {}
  | some t => (pairs t).foldlM readPair {}

theorem read_none : read none = pure {} := rfl

theorem switchOf?_true {value : Text} (h : (Text.trim value).lower ∈ onValues) :
    switchOf? value = some true := by
  simp [switchOf?, h]

theorem switchOf?_false {value : Text} (h : (Text.trim value).lower ∈ offValues)
    (hOn : (Text.trim value).lower ∉ onValues) : switchOf? value = some false := by
  simp [switchOf?, h, hOn]

end RenderOptions

end Excerpt
