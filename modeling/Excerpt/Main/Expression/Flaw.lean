import Excerpt.Fault
import Excerpt.Text.Printable

/-!
# Flaws of expressions

Everything that can be wrong with the text of an expression, by cause, with the wording of each
cause, and a refusal: a flaw at a line.

* `label_of_indentation`: only a wrong indentation has a label of its own.
* `Refusal.text_of_no_line`: a refusal without a line is worded like its flaw.
-/

namespace Excerpt.Expression

/-- The ways to write a number. -/
inductive NumberForm where
  | decimal | hexadecimal | octal | binary | imaginary
  deriving DecidableEq, Repr

def NumberForm.name : NumberForm → String
  | .decimal => "decimal"
  | .hexadecimal => "hexadecimal"
  | .octal => "octal"
  | .binary => "binary"
  | .imaginary => "imaginary"

/-- What is wrong with an escape in a text in quotes. -/
inductive EscapeFlaw where
  | shortByte
  | shortUnit
  | shortCode
  | noCharacter
  | noName
  | unknownName
  deriving DecidableEq, Repr

def EscapeFlaw.description : EscapeFlaw → String
  | .shortByte => "truncated \\xXX escape"
  | .shortUnit => "truncated \\uXXXX escape"
  | .shortCode => "truncated \\UXXXXXXXX escape"
  | .noCharacter => "illegal Unicode character"
  | .noName => "malformed \\N character escape"
  | .unknownName => "unknown Unicode character name"

/-- What is wrong with the text of an expression. -/
inductive Flaw where
  -- characters and tokens
  | invalidCharacter (c : Char)
  | unterminatedText (tripled : Bool) (line : Nat)
  | invalidNumber (form : NumberForm)
  | invalidDigit (digit : Char) (form : NumberForm)
  | leadingZeros
  | numberTooLong (digits : Nat)
  | tooManyOpen
  | nothingOpen (closing : Char)
  | wrongClosing (closing opening : Char) (line : Option Nat)
  | neverClosed (opening : Char)
  | brokenLine
  | unexpectedIndent
  | wrongUnindent
  | nullCharacter
  -- texts in quotes
  | mixedTexts
  | wideBytes
  | byteEscape (position : Nat)
  | escape (first last : Nat) (flaw : EscapeFlaw)
  -- what stands where nothing fits
  | unreadable
  | missingComma
  | missingElse
  | missingBrackets (name : Text)
  -- names that are given a value
  | assignedName
  | assigned (what : String)
  | assignedHere (what : String)
  | boundBy (what : String)
  | assignedArgument
  -- arguments
  | bareStarred
  | bareGenerator
  | positionalBehindNamed
  | positionalBehindUnpacked
  | unpackedBehindUnpacked
  | missingDefault
  -- brackets and what they hold
  | starredGroup
  | doublyStarredGroup
  | starredElement
  | bareTuple
  | unpackedEntry
  | starredValue
  | missingColon
  | missingValue
  -- parameters
  | bracketedParameters
  | parameterBehindDefault
  | slashFirst
  | slashTwice
  | slashBehindStar
  | starBehindSlash
  | bareStar
  | starredDefault
  | starTwice
  | keywordsDefault
  | parameterBehindKeywords
  deriving DecidableEq, Repr

namespace Flaw

/-- A code point in capital hexadecimal digits, four at least. -/
def codeText (c : Char) : String :=
  let digits := (Nat.toDigits 16 c.toNat).map Char.toUpper
  String.ofList (List.replicate (4 - digits.length) '0' ++ digits)

def message : Flaw → String
  | .invalidCharacter c =>
    if isPrintable c then s!"invalid character '{c}' (U+{codeText c})"
    else s!"invalid non-printable character U+{codeText c}"
  | .unterminatedText tripled line =>
    (if tripled then "unterminated triple-quoted string literal"
      else "unterminated string literal") ++ s!" (detected at line {line})"
  | .invalidNumber form => s!"invalid {form.name} literal"
  | .invalidDigit digit form => s!"invalid digit '{digit}' in {form.name} literal"
  | .leadingZeros =>
    "leading zeros in decimal integer literals are not permitted; " ++
      "use an 0o prefix for octal integers"
  | .numberTooLong digits =>
    Fault.message (.numeralTooLong digits) ++ " - Consider hexadecimal for huge integer " ++
      "literals to avoid decimal conversion limits."
  | .tooManyOpen => "too many nested parentheses"
  | .nothingOpen closing => s!"unmatched '{closing}'"
  | .wrongClosing closing opening line =>
    s!"closing parenthesis '{closing}' does not match opening parenthesis '{opening}'" ++
      match line with
      | some line => s!" on line {line}"
      | none => ""
  | .neverClosed opening => s!"'{opening}' was never closed"
  | .brokenLine => "unexpected character after line continuation character"
  | .unexpectedIndent => "unexpected indent"
  | .wrongUnindent => "unindent does not match any outer indentation level"
  | .nullCharacter => "source code string cannot contain null bytes"
  | .mixedTexts => "cannot mix bytes and nonbytes literals"
  | .wideBytes => "bytes can only contain ASCII literal characters"
  | .byteEscape position => s!"(value error) invalid \\x escape at position {position}"
  | .escape first last flaw =>
    s!"(unicode error) 'unicodeescape' codec can't decode " ++
      (if first = last then s!"byte 0x5c in position {first}: "
        else s!"bytes in position {first}-{last}: ") ++ flaw.description
  | .unreadable => "invalid syntax"
  | .missingComma => "invalid syntax. Perhaps you forgot a comma?"
  | .missingElse => "expected 'else' after 'if' expression"
  | .missingBrackets name =>
    s!"Missing parentheses in call to '{Fault.plain name}'. " ++
      s!"Did you mean {Fault.plain name}(...)?"
  | .assignedName => "invalid syntax. Maybe you meant '==' or ':=' instead of '='?"
  | .assigned what => s!"cannot assign to {what}"
  | .assignedHere what => s!"cannot assign to {what} here. Maybe you meant '==' instead of '='?"
  | .boundBy what => s!"cannot use assignment expressions with {what}"
  | .assignedArgument => "expression cannot contain assignment, perhaps you meant \"==\"?"
  | .bareStarred => "Invalid star expression"
  | .bareGenerator => "Generator expression must be parenthesized"
  | .positionalBehindNamed => "positional argument follows keyword argument"
  | .positionalBehindUnpacked => "positional argument follows keyword argument unpacking"
  | .unpackedBehindUnpacked => "iterable argument unpacking follows keyword argument unpacking"
  | .missingDefault => "expected default value expression"
  | .starredGroup => "cannot use starred expression here"
  | .doublyStarredGroup => "cannot use double starred expression here"
  | .starredElement => "iterable unpacking cannot be used in comprehension"
  | .bareTuple => "did you forget parentheses around the comprehension target?"
  | .unpackedEntry => "dict unpacking cannot be used in dict comprehension"
  | .starredValue => "cannot use a starred expression in a dictionary value"
  | .missingColon => "':' expected after dictionary key"
  | .missingValue => "expression expected after dictionary key and ':'"
  | .bracketedParameters => "Lambda expression parameters cannot be parenthesized"
  | .parameterBehindDefault => "non-default argument follows default argument"
  | .slashFirst => "at least one argument must precede /"
  | .slashTwice => "/ may appear only once"
  | .slashBehindStar => "/ must be ahead of *"
  | .starBehindSlash => "expected comma between / and *"
  | .bareStar => "named arguments must follow bare *"
  | .starredDefault => "var-positional argument cannot have default value"
  | .starTwice => "* argument may appear only once"
  | .keywordsDefault => "var-keyword argument cannot have default value"
  | .parameterBehindKeywords => "arguments cannot follow var-keyword argument"

def label : Flaw → String
  | .unexpectedIndent | .wrongUnindent => "IndentationError"
  | _ => "SyntaxError"

theorem label_of_indentation {flaw : Flaw} (h : flaw.label = "IndentationError") :
    flaw = .unexpectedIndent ∨ flaw = .wrongUnindent := by
  cases flaw <;> simp_all [label]

end Flaw

/-- A flaw and the line where it was seen. -/
structure Refusal where
  flaw : Flaw
  line : Option Nat
  deriving DecidableEq, Repr

namespace Refusal

/-- The flaw and the place of its line, in a text that has no name. -/
def text (r : Refusal) : String :=
  match r.line with
  | some line => s!"{r.flaw.message} (<unknown>, line {line})"
  | none => r.flaw.message

theorem text_of_no_line (flaw : Flaw) : (Refusal.mk flaw none).text = flaw.message := rfl

end Refusal

end Excerpt.Expression
