/-!
# Brackets

The three kinds of brackets that may stand behind a command: braces for highlights, angle brackets
for edits, square brackets for options.

* `ofOpener_opener`: a bracket is known by its opening character.
* `opener_ne_closer`: no character both opens and closes a bracket.
-/

namespace Excerpt

inductive Bracket where
  | brace
  | angle
  | square
  deriving DecidableEq, Repr

namespace Bracket

def opener : Bracket → Char
  | .brace => '\x7b'
  | .angle => '<'
  | .square => '['

def closer : Bracket → Char
  | .brace => '\x7d'
  | .angle => '>'
  | .square => ']'

/-- The bracket that a character opens. -/
def ofOpener? (c : Char) : Option Bracket :=
  if c = '\x7b' then some .brace
  else if c = '<' then some .angle
  else if c = '[' then some .square
  else none

theorem ofOpener_opener (b : Bracket) : ofOpener? b.opener = some b := by
  cases b <;> rfl

theorem opener_of_ofOpener {c : Char} {b : Bracket} (h : ofOpener? c = some b) :
    c = b.opener := by
  unfold ofOpener? at h
  split at h
  · cases h
    assumption
  · split at h
    · cases h
      assumption
    · split at h
      · cases h
        assumption
      · cases h

theorem opener_ne_closer (b b' : Bracket) : b.opener ≠ b'.closer := by
  cases b <;> cases b' <;> decide

end Bracket

end Excerpt
