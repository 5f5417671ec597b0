import Excerpt.Main.Expression.Number
import Excerpt.Text.LowerCase
import Excerpt.Main.Word

/-!
# Tokens of expressions

An expression is cut into names, numbers, texts in quotes, signs and the ends of its lines. Here is
what each of them looks like where a text begins with it.

* `misplaced?_of_name`: a name holds no character that does not belong into it.
* `length_behindQuote_lt`: behind a quote, less of the text is left.
-/

namespace Excerpt.Expression

inductive TokenKind where
  | name | number | quoted | sign | lineEnd | indent | unindent | finish
  deriving DecidableEq, Repr

/-- A token, the line where it begins and the number of brackets that are open behind it. -/
structure Token where
  kind : TokenKind
  text : Text
  line : Nat
  depth : Nat
  deriving DecidableEq, Repr

/-- Words that are no names. -/
def reservedWords : List Text :=
  ["False", "None", "True", "and", "as", "assert", "async", "await", "break", "class", "continue",
    "def", "del", "elif", "else", "except", "finally", "for", "from", "global", "if", "import",
    "in", "is", "lambda", "nonlocal", "not", "or", "pass", "raise", "return", "try", "while",
    "with", "yield"].map String.toList

/-- Whether a token is of a kind. A reserved word is no name. -/
def Token.isA (t : Token) (kind : TokenKind) : Bool :=
  t.kind = kind && !(kind = .name && reservedWords.contains t.text)

/-- Whether a token is the given sign or word. -/
def Token.isSign (t : Token) (s : String) : Bool :=
  (t.kind = .sign || t.kind = .name) && t.text == s.toList

/-- Where the cutting ended with a flaw. A grave flaw stands against any other; one that is not only
does if nothing else is wrong. A bracket may be open there. The flaw is foreseen if it was in sight
already when the last token was cut. -/
structure Stop where
  refusal : Refusal
  isGrave : Bool
  unclosed : Option (Char × Nat) := none
  isForeseen : Bool := false

/-- The tokens of a text, and the flaw that they end at, if they do. -/
structure Tokens where
  items : Array Token := #[]
  stop : Option Stop := none

namespace Tokens

/-! ## Signs -/

/-- The signs of three and of two characters. Every other character is a sign of its own. -/
def longSigns : List Text :=
  ["...", "**=", "//=", "<<=", ">>=", "!=", "%=", "&=", "**", "*=", "+=", "-=", "->", "//", "/=",
    ":=", "<<", "<=", "<>", "==", ">=", ">>", "@=", "^=", "|="].map String.toList

/-- The sign that a text begins with. -/
def signAt (t : Text) : Text := (longSigns.find? (·.isPrefixOf t)).getD (t.take 1)

/-- The opening bracket of a closing one. -/
def openingOf? (c : Char) : Option Char :=
  if c = ')' then some '(' else if c = ']' then some '[' else if c = '}' then some '{' else none

def isOpening (c : Char) : Bool := c == '(' || c == '[' || c == '{'

/-- How many brackets may be open at a time. -/
def depthLimit : Nat := 200

/-! ## Names and texts in quotes -/

def isNameStartAscii (c : Char) : Bool := Number.isWordAscii c && !Number.isDecimal c

/-- The first character that does not belong into a name. -/
def misplaced? : Text → Option Char
  | [] => none
  | c :: rest => if isNameStart c then rest.find? (fun d => !isNamePart d) else some c

/-- The letters that may stand in front of a quote. -/
def quoteMarks : List Text :=
  ["", "b", "r", "u", "f", "br", "rb", "fr", "rf"].map String.toList

def isQuote (c : Char) : Bool := c == '\'' || c == '"'

/-- What stands behind the quote that ends a text on one line. -/
def behindQuote (quote : Char) : Text → Option Text
  | [] => none
  | ['\\'] => none
  | '\\' :: _ :: rest => behindQuote quote rest
  | c :: rest => if c = quote then some rest else if c = '\n' then none else behindQuote quote rest

/-- What stands behind the three quotes that end a text on several lines. -/
def behindQuotes (quote : Char) : Text → Option Text
  | [] => none
  | ['\\'] => none
  | '\\' :: _ :: rest => behindQuotes quote rest
  | c :: rest =>
    if c = quote && [quote, quote].isPrefixOf rest then some (rest.drop 2)
    else behindQuotes quote rest

/-- The line on which a text ends that begins on the given one. -/
def lineBehind (line : Nat) (t : Text) : Nat := line + t.count '\n'

/-- The part of a text up to its first line end that is not escaped. -/
def restOfLine : Text → Text
  | [] => []
  | ['\\'] => ['\\']
  | '\\' :: c :: rest => '\\' :: c :: restOfLine rest
  | c :: rest => if c = '\n' then [] else c :: restOfLine rest

/-- What stands behind the text in quotes that begins here. -/
def quotedAt (line : Nat) (t : Text) : Except Flaw Text :=
  match t with
  | quote :: rest =>
    if [quote, quote].isPrefixOf rest then
      match behindQuotes quote (rest.drop 2) with
      | some behind => .ok behind
      | none =>
        let seen := Text.dropEndWhile (· == '\n') rest
        .error (.unterminatedText true (lineBehind line seen))
    else
      match behindQuote quote rest with
      | some behind => .ok behind
      | none => .error (.unterminatedText false (lineBehind line (restOfLine rest)))
  | [] => .ok []

/-- Whether a text in quotes begins here, with the letters in front of it. -/
def beginsQuoted (t : Text) : Bool :=
  quoteMarks.contains (Text.lower (t.takeWhile Number.isNameCandidate)) &&
    (t.dropWhile Number.isNameCandidate).head?.any isQuote

/-! ## Laws -/

theorem misplaced?_of_name {c : Char} {rest : Text} (hStart : isNameStart c = true)
    (hRest : ∀ d ∈ rest, isNamePart d = true) : misplaced? (c :: rest) = none := by
  simpa [misplaced?, hStart] using hRest

theorem length_behindQuote_lt {quote : Char} {t rest : Text}
    (h : behindQuote quote t = some rest) : rest.length < t.length := by
  fun_induction behindQuote quote t with
  | case1 => cases h
  | case2 => cases h
  | case3 _ _ ih => exact Nat.lt_trans (ih h) (by simp only [List.length_cons]; omega)
  | case4 => cases h; simp
  | case5 => cases h
  | case6 _ _ _ _ _ _ ih => exact Nat.lt_trans (ih h) (by simp)

end Tokens

end Excerpt.Expression
