import Excerpt.Main.Expression.Flaw

/-!
# Numbers in expressions

A number is written with decimal digits, with a fraction, an exponent or a letter that makes it
imaginary, or, behind a zero and a letter, with the digits of another base. Low lines may stand
between digits, one at a time. Behind the digits no letter may follow, unless it begins a word that
can follow a number.

* `exists_append_of_afterDigits`: what is left behind digits is the end of the text.
-/

namespace Excerpt.Expression

namespace Number

def isDecimal (c : Char) : Bool := '0' ≤ c && c ≤ '9'

def isHexadecimal (c : Char) : Bool :=
  isDecimal c || ('a' ≤ c && c ≤ 'f') || ('A' ≤ c && c ≤ 'F')

/-- Whether the character is a letter of ASCII, a digit or the low line. -/
def isWordAscii (c : Char) : Bool :=
  isDecimal c || ('a' ≤ c && c ≤ 'z') || ('A' ≤ c && c ≤ 'Z') || c == '_'

/-- Whether the text begins with the given one. -/
def startsWith (t : Text) (opening : String) : Bool := opening.toList.isPrefixOf t

/-- Whether a name may go on with the character, as far as can be seen at once. -/
def isNameCandidate (c : Char) : Bool := isWordAscii c || 0x80 ≤ c.toNat

/-- The words that may follow a number without a blank, if they end there. -/
def followers : List String := ["and", "else", "for", "not", "or"]

/-- The words that may follow a number without a blank even if more letters follow them. -/
def looseFollowers : List String := ["if", "in", "is"]

/-- Whether the text begins with a word that may follow a number. -/
def isFollowed (t : Text) : Bool :=
  looseFollowers.any (startsWith t) ||
    followers.any fun word => startsWith t word && !(t.drop word.length).head?.any isNameCandidate

/-- Refuses what cannot stand behind a number. -/
def checkEnd (form : NumberForm) (t : Text) : Except Flaw Unit :=
  if isFollowed t then .ok ()
  else if t.head?.any isWordAscii then .error (.invalidNumber form)
  else .ok ()

/-- What is left behind decimal digits, of which the first has been read. -/
def afterDigits : Text → Except Flaw Text
  | [] => .ok []
  | ['_'] => .error (.invalidNumber .decimal)
  | '_' :: d :: rest =>
    if isDecimal d then afterDigits rest else .error (.invalidNumber .decimal)
  | d :: rest => if isDecimal d then afterDigits rest else .ok (d :: rest)

/-- What is left behind the digits of another base, with the low lines between them. The flag
tells whether a digit has to come next. -/
def afterRadix (form : NumberForm) (isDigit : Char → Bool) : Bool → Text → Except Flaw Text
  | true, [] => .error (.invalidNumber form)
  | false, [] => .ok []
  | pending, c :: rest =>
    if isDigit c then afterRadix form isDigit false rest
    else if form ≠ .hexadecimal && isDecimal c then .error (.invalidDigit c form)
    else if pending then .error (.invalidNumber form)
    else if c = '_' then afterRadix form isDigit true rest
    else .ok (c :: rest)

/-- A number in another base: what stands behind the letter of the base. -/
def scanRadix (form : NumberForm) (isDigit : Char → Bool) (t : Text) : Except Flaw Text := do
  let t := match t with
    | '_' :: rest => rest
    | _ => t
  let rest ← afterRadix form isDigit true t
  checkEnd form rest
  return rest

/-- What is left behind the letter that makes a number imaginary, if there is one. -/
def afterImaginary (t : Text) : Except Flaw Text :=
  match t with
  | [] => .ok []
  | c :: rest =>
    if c = 'j' || c = 'J' then do
      checkEnd .imaginary rest
      return rest
    else do
      checkEnd .decimal t
      return t

/-- What is left behind an exponent, if there is one, and behind what can follow it. -/
def afterExponent (t : Text) : Except Flaw Text :=
  match t with
  | [] => .ok []
  | c :: rest =>
    if c = 'e' || c = 'E' then
      match rest with
      | [] => .error (.invalidNumber .decimal)
      | d :: behind =>
        if d = '+' || d = '-' then
          match behind with
          | [] => .error (.invalidNumber .decimal)
          | digit :: behind =>
            if isDecimal digit then afterDigits behind >>= afterImaginary
            else .error (.invalidNumber .decimal)
        else if isDecimal d then afterDigits behind >>= afterImaginary
        else do
          checkEnd .decimal t
          return t
    else afterImaginary t

/-- What is left behind the digits of a fraction and behind what can follow it. -/
def afterFraction (t : Text) : Except Flaw Text :=
  match t with
  | [] => .ok []
  | d :: rest => if isDecimal d then afterDigits rest >>= afterExponent else afterExponent t

/-- What is left behind a number whose digits in front of the point have been read. -/
def afterWhole (t : Text) : Except Flaw Text :=
  match t with
  | '.' :: rest => afterFraction rest
  | _ => afterExponent t

/-- What is left behind zeros, with the low lines between them. -/
def afterZeros : Text → Except Flaw Text
  | [] => .ok []
  | ['_'] => .error (.invalidNumber .decimal)
  | '_' :: d :: rest =>
    if d = '0' then afterZeros rest
    else if isDecimal d then .ok (d :: rest)
    else .error (.invalidNumber .decimal)
  | d :: rest => if d = '0' then afterZeros rest else .ok (d :: rest)

/-- Whether the text goes on with what makes leading zeros harmless. -/
def isReal (t : Text) : Bool :=
  t.head?.any fun c => c == '.' || c == 'e' || c == 'E' || c == 'j' || c == 'J'

/-- What is left behind a number that begins with the zero in front of the text. -/
def afterZero (t : Text) : Except Flaw Text :=
  match t with
  | [] => .ok []
  | c :: rest =>
    if c = 'x' || c = 'X' then scanRadix .hexadecimal isHexadecimal rest
    else if c = 'o' || c = 'O' then
      scanRadix .octal (fun c => '0' ≤ c && c ≤ '7') rest
    else if c = 'b' || c = 'B' then
      scanRadix .binary (fun c => c == '0' || c == '1') rest
    else do
      match ← afterZeros t with
      | [] => return []
      | d :: rest =>
        if isDecimal d then
          let rest ← afterDigits rest
          if isReal rest then afterWhole rest else throw .leadingZeros
        else afterWhole (d :: rest)

/-- What is left behind the number that a text begins with: a digit, or a point and a digit. -/
def after (t : Text) : Except Flaw Text :=
  match t with
  | '0' :: rest => afterZero rest
  | '.' :: rest => afterFraction rest
  | _ => afterDigits (t.drop 1) >>= afterWhole

/-! ## Values -/

/-- The value of a digit of any base. -/
def digitValue (c : Char) : Nat :=
  if isDecimal c then c.toNat - '0'.toNat
  else if 'a' ≤ c && c ≤ 'f' then c.toNat - 'a'.toNat + 10
  else c.toNat - 'A'.toNat + 10

/-- The value of digits in a base. -/
def valueIn (base : Nat) (digits : Text) : Nat :=
  digits.foldl (fun n c => base * n + digitValue c) 0

/-- The number that a text stands for: none if it is no whole number. -/
inductive Value where
  | whole (n : Nat)
  | fraction
  | imaginary
  deriving DecidableEq, Repr

/-- The value of a number. A whole number of too many digits is refused. -/
def value (t : Text) : Except Flaw Value :=
  match t.filter (· != '_') with
  | '0' :: c :: digits =>
    if c = 'x' || c = 'X' then .ok (.whole (valueIn 16 digits))
    else if c = 'o' || c = 'O' then .ok (.whole (valueIn 8 digits))
    else if c = 'b' || c = 'B' then .ok (.whole (valueIn 2 digits))
    else .ok (decimalValue ('0' :: c :: digits))
  | digits =>
    if digits.all isDecimal && Fault.digitLimit < digits.length then
      .error (.numberTooLong digits.length)
    else .ok (decimalValue digits)
where
  decimalValue (digits : Text) : Value :=
    if digits.any fun c => c == 'j' || c == 'J' then .imaginary
    else if digits.all isDecimal then .whole (valueIn 10 digits)
    else .fraction

/-! ## Laws -/

theorem exists_append_of_afterDigits {t rest : Text} (h : afterDigits t = .ok rest) :
    ∃ digits, t = digits ++ rest := by
  fun_induction afterDigits t with
  | case1 => exact ⟨[], by simpa using h⟩
  | case2 => cases h
  | case3 d behind _ ih =>
    obtain ⟨digits, hDigits⟩ := ih h
    exact ⟨'_' :: d :: digits, by rw [hDigits]; rfl⟩
  | case4 => cases h
  | case5 d behind _ _ _ ih =>
    obtain ⟨digits, hDigits⟩ := ih h
    exact ⟨d :: digits, by rw [hDigits]; rfl⟩
  | case6 d behind =>
    cases h
    exact ⟨[], rfl⟩

end Number

end Excerpt.Expression
