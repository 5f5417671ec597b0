import Excerpt.Text.Numeral
import Excerpt.Text.Quoted

/-!
# Data

Events carry data, and settings are given as data: nothing, truth values, integers, texts, lists
and records of these. A record keeps its fields in order.

* `display_text`: a text is displayed as it is.
* `written_text`: and written between quotes.
-/

namespace Excerpt

inductive Datum where
  | null
  | bool (value : Bool)
  | int (value : Int)
  | text (value : Text)
  | list (items : List Datum)
  | record (fields : List (Text × Datum))
  deriving Repr

/-- The fields of an event or of settings, in order. -/
abbrev Fields := List (Text × Datum)

namespace Datum

/-- An integer in digits. -/
def ofInt (n : Int) : Text :=
  if n < 0 then '-' :: Numeral.ofNat n.natAbs else Numeral.ofNat n.natAbs

/-- The texts with a comma and a space between them. -/
def listed (texts : List Text) : Text := Text.join [',', ' '] texts

mutual

/-- A datum as it is written in a log. -/
def written : Datum → Text
  | .null => "None".toList
  | .bool true => "True".toList
  | .bool false => "False".toList
  | .int n => ofInt n
  | .text t => t.quoted
  | .list items => '[' :: listed (writtenItems items) ++ [']']
  | .record fields => '\x7b' :: listed (writtenFields fields) ++ ['\x7d']

def writtenItems : List Datum → List Text
  | [] => []
  | item :: rest => written item :: writtenItems rest

def writtenFields : List (Text × Datum) → List Text
  | [] => []
  | (key, value) :: rest => (key.quoted ++ ':' :: ' ' :: written value) :: writtenFields rest

end

/-- A datum as it is shown in a message. -/
def display : Datum → Text
  | .text t => t
  | d => d.written

/-- Whether there is something in a datum. -/
def isTruthy : Datum → Bool
  | .null => false
  | .bool b => b
  | .int n => n != 0
  | .text t => !t.isEmpty
  | .list items => !items.isEmpty
  | .record fields => !fields.isEmpty

/-- Whether the datum is nothing. -/
def isNull : Datum → Bool
  | .null => true
  | _ => false

theorem display_text (t : Text) : display (.text t) = t := rfl

theorem written_text (t : Text) : written (.text t) = t.quoted := by
  simp [written]

end Datum

/-- The value of a field, nothing if it is not there. -/
def Fields.get (fields : Fields) (key : String) : Datum :=
  (fields.lookup key.toList).getD .null

end Excerpt
