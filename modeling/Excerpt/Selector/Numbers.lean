import Excerpt.Fault
import Excerpt.Text.Blank
import Excerpt.Text.Numeral

/-!
# Numbers in selectors

A number is a numeral, a span two numerals with a dash between them; blanks may stand around each
numeral. A numeral of too many digits is refused by a fault of its own, leading zeros counted.

* `readNumber_unreadable_iff`: what is unreadable is exactly what is no numeral.
-/

namespace Excerpt

/-- The digits of a numeral with blanks around it. -/
def paddedDigits? (token : Text) : Option (List Nat) := Numeral.digits? token.trim

/-- The number with the given digits. -/
def numberOf (digits : List Nat) : Except Fault Nat :=
  if Fault.digitLimit < digits.length then .error (.numeralTooLong digits.length)
  else .ok (Numeral.value digits)

/-- Reads a number. -/
def readNumber (what token : Text) : Except Fault Nat :=
  match paddedDigits? token with
  | some digits => numberOf digits
  | none => .error (.unreadable what token)

/-- Reads two numbers with a dash between them. -/
def readSpan (what token : Text) : Except Fault (Nat × Nat) :=
  match (Text.splitOn '-' token).map paddedDigits? with
  | [some first, some last] =>
    match numberOf first, numberOf last with
    | .ok a, .ok b => .ok (a, b)
    | .error fault, _ => .error fault
    | _, .error fault => .error fault
  | _ => .error (.unreadable what token)

theorem numberOf_ne_unreadable (digits : List Nat) (what token : Text) :
    numberOf digits ≠ .error (.unreadable what token) := by
  unfold numberOf
  split <;> simp

theorem readNumber_unreadable_iff {what token : Text} :
    readNumber what token = .error (.unreadable what token) ↔ paddedDigits? token = none := by
  unfold readNumber
  cases paddedDigits? token with
  | none => simp
  | some digits => simpa using numberOf_ne_unreadable digits what token

end Excerpt
