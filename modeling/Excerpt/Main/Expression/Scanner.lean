import Excerpt.Main.Expression.Token

/-!
# Cutting expressions into tokens

Brackets are counted while a text is cut: inside them a line may end anywhere. Outside of them a
line is looked at for its indentation, unless it is blank. The cutting ends at the end of the text
or at a flaw; the tokens before the flaw stand.

* `scan_of_null`: a text with a null character is not cut at all.
* `stop_close_isSome`: a text that ends inside brackets ends with a flaw.
-/

namespace Excerpt.Expression

namespace Tokens

/-- The state between two tokens: the line, the brackets that are open with their lines, the last
first, the columns where lines begin that are indented, and whether a line begins. -/
structure Scanner where
  line : Nat := 1
  opened : List (Char × Nat) := []
  indents : List Nat := []
  atStart : Bool := true
  items : Array Token := #[]

namespace Scanner

def push (s : Scanner) (kind : TokenKind) (text : Text) : Scanner :=
  { s with
    items := s.items.push ⟨kind, text, s.line, s.opened.length⟩
    line := lineBehind s.line text }

def finish (s : Scanner) : Tokens := { items := s.items }

def fail (s : Scanner) (isGrave : Bool) (flaw : Flaw) (line : Nat) : Tokens :=
  ⟨s.items, some { refusal := ⟨flaw, some line⟩, isGrave, unclosed := s.opened.head? }⟩

/-- Whether the end of the last token is only known from the character behind it. -/
def looksAhead (s : Scanner) : Bool :=
  s.items.back?.any fun t => t.kind != .quoted && !(t.kind = .sign && t.text.length = 3)

/-- The end of the text; the last token may stand right in front of it. -/
def close (s : Scanner) (isTouching : Bool) : Tokens :=
  match s.opened with
  | (opening, line) :: _ =>
    ⟨s.items, some {
      refusal := ⟨.neverClosed opening, some line⟩
      isGrave := false
      unclosed := some (opening, line)
      isForeseen := isTouching && s.looksAhead }⟩
  | [] => (s.indents.foldl (fun s _ => s.push .unindent []) s |>.push .finish []).finish

/-- Opens or closes a bracket. -/
def bracket (s : Scanner) (c : Char) : Except Flaw Scanner :=
  if isOpening c then
    if depthLimit ≤ s.opened.length then .error .tooManyOpen
    else .ok { s with opened := (c, s.line) :: s.opened }
  else match openingOf? c, s.opened with
    | none, _ => .ok s
    | some _, [] => .error (.nothingOpen c)
    | some opening, (found, line) :: rest =>
      if found = opening then .ok { s with opened := rest }
      else .error (.wrongClosing c found (if line = s.line then none else some line))

/-- The beginning of a line: the column of its first character that is no blank, how many lines
further down that stands, and the text from there. -/
structure Margin where
  column : Nat
  lines : Nat
  text : Text

/-- The margin of a line, or how many lines further down it breaks off. A backslash goes on with
the next line, and the first column in front of one that is not zero counts; nothing but the end of
its line may follow a backslash. -/
def marginFrom (column kept lines : Nat) : Text → Except Nat Margin
  | ' ' :: rest => marginFrom (column + 1) kept lines rest
  | '\t' :: rest => marginFrom ((column / 8 + 1) * 8) kept lines rest
  | '\x0c' :: rest => marginFrom 0 kept lines rest
  | '\\' :: '\n' :: rest =>
    marginFrom column (if kept = 0 then column else kept) (lines + 1) rest
  | '\\' :: _ => .error lines
  | t => .ok ⟨if kept = 0 then column else kept, lines, t⟩

def isSpace (c : Char) : Bool := c == ' ' || c == '\t' || c == '\x0c'

/-- Whether the character is a control character of ASCII. -/
def isControl (c : Char) : Bool := c.toNat < 0x20 || c.toNat == 0x7f

/-- Takes back indentations up to the given column. -/
def unindent (s : Scanner) (column : Nat) : Option Scanner :=
  let kept := s.indents.dropWhile (column < ·)
  let dropped := s.indents.length - kept.length
  if kept.headD 0 = column then
    some { (List.range dropped).foldl (fun s _ => s.push .unindent []) s with indents := kept }
  else none

/-- Looks at the indentation of a line that is neither blank nor inside brackets. -/
def indent (s : Scanner) (column : Nat) : Option Scanner :=
  if s.indents.headD 0 < column then
    some { s.push .indent [] with indents := column :: s.indents }
  else s.unindent column

/-- Passes the margin of a line, or the blanks between two tokens. -/
def passBlanks (s : Scanner) (t : Text) : Except (Flaw × Nat) (Scanner × Text) :=
  if s.atStart then
    match marginFrom 0 0 0 t with
    | .error lines => .error (.brokenLine, s.line + lines)
    | .ok margin =>
      let s := { s with line := s.line + margin.lines }
      let isBlank := margin.text.head?.any fun c => c == '#' || c == '\n'
      if s.opened.isEmpty && !isBlank then
        match s.indent margin.column with
        | some s => .ok (s, margin.text)
        | none => .error (.wrongUnindent, s.line)
      else .ok (s, margin.text)
  else .ok (s, t.dropWhile isSpace)

/-- Cuts the token at the beginning of a text that begins with none of the characters between
tokens. -/
def cutToken (s : Scanner) (t : Text) : Except Flaw (Scanner × Text) :=
  let c := t.headD ' '
  let cutAt (kind : TokenKind) (behind : Text) : Scanner × Text :=
    (s.push kind (t.take (t.length - behind.length)), behind)
  if beginsQuoted t then
    (quotedAt s.line (t.dropWhile Number.isNameCandidate)).map (cutAt .quoted)
  else if isNameStartAscii c || 0x80 ≤ c.toNat then
    match misplaced? (t.takeWhile Number.isNameCandidate) with
    | some d => .error (.invalidCharacter d)
    | none => .ok (cutAt .name (t.dropWhile Number.isNameCandidate))
  else if Number.isDecimal c || c = '.' && (t.drop 1).head?.any Number.isDecimal then
    (Number.after t).map (cutAt .number)
  else if 1 < (signAt t).length then .ok (cutAt .sign (t.drop (signAt t).length))
  else do
    let s ← s.bracket c
    if isControl c then throw (.invalidCharacter c)
    return (s.push .sign [c], t.drop 1)

/-- Cuts a text, at most as many times as the fuel says. -/
def scan : Nat → Scanner → Text → Tokens
  | 0, s, _ => s.finish
  | fuel + 1, s, t =>
    match s.passBlanks t with
    | .error (flaw, line) => s.fail false flaw line
    | .ok (inside, []) => inside.close t.isEmpty
    | .ok (inside, c :: rest) =>
      let next := { inside with atStart := false }
      if c = '#' then scan fuel inside (rest.dropWhile (· != '\n'))
      else if c = '\n' then
        if inside.atStart || !inside.opened.isEmpty then
          scan fuel { inside with line := inside.line + 1, atStart := true } rest
        else scan fuel { next.push .lineEnd ['\n'] with atStart := true } rest
      else if c = '\\' then
        if rest.head? = some '\n' then scan fuel { next with line := next.line + 1 } (rest.drop 1)
        else next.fail false .brokenLine next.line
      else match next.cutToken (c :: rest) with
        | .error flaw => next.fail true flaw next.line
        | .ok (s, behind) => scan fuel s behind

/-! ## Laws -/

theorem stop_close_isSome {s : Scanner} (h : s.opened ≠ []) (isTouching : Bool) :
    (s.close isTouching).stop.isSome = true := by
  unfold close
  split
  · rfl
  · contradiction

end Scanner

/-- The text with one character for each line end. -/
def unifyLines : Text → Text
  | [] => []
  | '\r' :: '\n' :: rest => '\n' :: unifyLines rest
  | c :: rest => (if c = '\r' then '\n' else c) :: unifyLines rest

/-- The end of the tokens of a text that is not cut at all. -/
def nullStop : Stop := { refusal := ⟨.nullCharacter, none⟩, isGrave := true }

/-- The tokens of a text. -/
def scan (t : Text) : Tokens :=
  if t.contains '\x00' then { stop := some nullStop }
  else ({} : Scanner).scan (t.length + 1) (unifyLines t)

theorem scan_of_null {t : Text} (h : '\x00' ∈ t) :
    (scan t).items = #[] ∧ (scan t).stop = some nullStop := by
  simp [scan, h]

end Tokens

end Excerpt.Expression
