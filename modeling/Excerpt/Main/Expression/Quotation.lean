import Excerpt.Main.Expression.Tree

/-!
# Texts in quotes

In front of its first quote a text may carry letters: they make it a row of bytes, leave its
backslashes alone, or let it hold expressions. A backslash begins an escape; those that name a
character by its number must have all their digits. Neighbouring texts are one, if all or none of
them are bytes.

* `check_of_no_backslash`: without a backslash a text of ASCII has no flaw.
-/

namespace Excerpt.Expression

/-- A text in quotes: what its letters say, and what stands between its quotes. -/
structure Quotation where
  isBytes : Bool
  isRaw : Bool
  isFormatted : Bool
  body : Text
  deriving DecidableEq, Repr

namespace Quotation

/-- The quotation that a token writes. -/
def ofText (t : Text) : Quotation :=
  let isNoQuote := fun c : Char => !Tokens.isQuote c
  let marks := t.takeWhile isNoQuote
  let quoted := t.dropWhile isNoQuote
  let has := fun small large : Char => marks.any fun c => c == small || c == large
  let width := match quoted with
    | a :: b :: c :: _ :: _ :: _ => if a = b && b = c then 3 else 1
    | _ => 1
  ⟨has 'b' 'B', has 'r' 'R', has 'f' 'F', (quoted.drop width).take (quoted.length - 2 * width)⟩

/-! ## Escapes -/

def isAscii (c : Char) : Bool := c.toNat < 0x80

/-- A code point as the escape that names it, with eight digits. -/
def spelled (c : Char) : Text :=
  let digits := Nat.toDigits 16 c.toNat
  '\\' :: 'U' :: List.replicate (8 - digits.length) '0' ++ digits

/-- A text with escapes in the place of all that is not ASCII. A backslash in front of such a
character stands for itself, and is spelled out too. -/
def spell : Text → Text
  | [] => []
  | ['\\'] => ['\\']
  | '\\' :: c :: rest =>
    if isAscii c then '\\' :: c :: spell rest
    else "\\u005c".toList ++ (spelled c ++ spell rest)
  | c :: rest => if isAscii c then c :: spell rest else spelled c ++ spell rest

/-- The hexadecimal digits at the beginning of a text, at most so many. -/
def hexadecimalRun (count : Nat) (t : Text) : Text := (t.take count).takeWhile Number.isHexadecimal

/-- The greatest code point. -/
def greatestCode : Nat := 0x10FFFF

/-- The number of digits of an escape by number, with the flaw if it has fewer. -/
def numbered? (c : Char) : Option (Nat × EscapeFlaw) :=
  if c = 'x' then some (2, .shortByte)
  else if c = 'u' then some (4, .shortUnit)
  else if c = 'U' then some (8, .shortCode)
  else none

/-- Whether a character can stand in the name of a character, in capitals. -/
def isNameCapital (c : Char) : Bool :=
  ('A' ≤ c && c ≤ 'Z') || Number.isDecimal c || c == ' ' || c == '-'

/-- The flaw of an escape by name, whose first character stands at the position. -/
def nameFlaw? (position : Nat) (rest : Text) : Option Flaw :=
  match rest with
  | '\x7b' :: behind =>
    let name := behind.takeWhile (· != '\x7d')
    let last := position + 2 + name.length
    if name.length = behind.length then some (.escape position last .noName)
    else if name.isEmpty then some (.escape position last .noName)
    else if name.all isNameCapital then none
    else some (.escape position (last + 1) .unknownName)
  | _ => some (.escape position (position + 1) .noName)

/-- The flaw of the escape at a position that begins with a character behind its backslash. -/
def escapeFlaw? (position : Nat) (c : Char) (rest : Text) : Option Flaw :=
  match numbered? c with
  | some (count, short) =>
    let digits := hexadecimalRun count rest
    let last := position + 1 + digits.length
    if digits.length < count then some (.escape position last short)
    else if greatestCode < Number.valueIn 16 digits then some (.escape position last .noCharacter)
    else none
  | none => if c = 'N' then nameFlaw? position rest else none

/-- The first flaw in the escapes of a text. -/
def textFlaw? (position : Nat) : Text → Option Flaw
  | [] => none
  | ['\\'] => none
  | '\\' :: c :: rest => (escapeFlaw? position c rest).or (textFlaw? (position + 2) rest)
  | _ :: rest => textFlaw? (position + 1) rest

/-- The first flaw in the escapes of a row of bytes. -/
def byteFlaw? (position : Nat) : Text → Option Flaw
  | [] => none
  | ['\\'] => none
  | '\\' :: c :: rest =>
    if c = 'x' && (hexadecimalRun 2 rest).length < 2 then some (.byteEscape position)
    else byteFlaw? (position + 2) rest
  | _ :: rest => byteFlaw? (position + 1) rest

def isBrace (c : Char) : Bool := c == '\x7b' || c == '\x7d'

/-- The flaw of a quotation, if it has one. What it holds in braces is not looked at. -/
def check (q : Quotation) : Option Flaw :=
  if q.isBytes then
    if !q.body.all isAscii then some .wideBytes
    else if q.isRaw then none
    else byteFlaw? 0 q.body
  else if q.isRaw || q.isFormatted && q.body.any isBrace then none
  else if q.body.contains '\\' then textFlaw? 0 (spell q.body)
  else none

/-- The flaw of quotations behind others that are bytes or not. What a quotation holds is looked at
first, but for one that may hold expressions. -/
def checkRest (isBytes : Bool) : List Quotation → Option Flaw
  | [] => none
  | q :: rest =>
    let mixed := if q.isBytes = isBytes then none else some .mixedTexts
    (if q.isFormatted then mixed.or q.check else q.check.or mixed).or (checkRest isBytes rest)

/-- The flaw of neighbouring quotations. -/
def checkAll : List Quotation → Option Flaw
  | [] => none
  | first :: rest => first.check.or (checkRest first.isBytes rest)

/-! ## Laws -/

theorem byteFlaw?_of_no_backslash {t : Text} (h : '\\' ∉ t) (position : Nat) :
    byteFlaw? position t = none := by
  fun_induction byteFlaw? position t with
  | case1 => rfl
  | case2 => rfl
  | case3 => simp at h
  | case4 => simp at h
  | case5 _ c rest _ _ ih => exact ih fun hm => h (List.mem_cons_of_mem _ hm)

theorem check_of_no_backslash {q : Quotation} (hAscii : q.body.all isAscii = true)
    (h : '\\' ∉ q.body) : q.check = none := by
  simp [check, hAscii, byteFlaw?_of_no_backslash h, h]

end Quotation

end Excerpt.Expression
