import Excerpt.Text.Basic

/-!
# Lines

A splitter takes characters one at a time. A carriage return ends its line, and a line feed
right behind it belongs to the same end; whether one follows is known only with the next
character, so a line that ends in a return is complete one character later. Documents end their
lines at more characters than source files do.

* `lines_nil`: no text, no line.
* `push_lines_prefix`: a character never takes back a line that is already complete.
-/

namespace Excerpt

/-- Besides the carriage return, only the line feed ends a line of a source file. -/
def isSourceBreak (c : Char) : Bool := c == '\n'

/-- The characters that end a line of a document, the carriage return apart. -/
def isDocumentBreak (c : Char) : Bool :=
  let n := c.toNat
  (0x0A ≤ n && n ≤ 0x0C) || (0x1C ≤ n && n ≤ 0x1E) || n == 0x85 || n == 0x2028 || n == 0x2029

/-- The state between two characters. Both lists are newest first. -/
structure LineSplitter where
  complete : List Text := []
  current : Text := []
  afterReturn : Bool := false

namespace LineSplitter

/-- Ends the current line. -/
def close (s : LineSplitter) : LineSplitter :=
  ⟨s.current.reverse :: s.complete, [], false⟩

/-- Takes a character that does not stand behind a carriage return. -/
def take (isBreak : Char → Bool) (s : LineSplitter) (c : Char) : LineSplitter :=
  if c = '\r' then { s with afterReturn := true }
  else if isBreak c then s.close
  else { s with current := c :: s.current }

/-- Takes the next character. -/
def push (isBreak : Char → Bool) (s : LineSplitter) (c : Char) : LineSplitter :=
  if s.afterReturn then
    if c = '\n' then s.close else s.close.take isBreak c
  else s.take isBreak c

/-- The lines that are complete, in order. -/
def lines (s : LineSplitter) : List Text := s.complete.reverse

/-- All lines, the last of which need not be ended. -/
def finish (s : LineSplitter) : List Text :=
  if s.afterReturn || !s.current.isEmpty then s.close.lines else s.lines

theorem lines_close (s : LineSplitter) : s.close.lines = s.lines ++ [s.current.reverse] := by
  simp [lines, close]

theorem push_lines_prefix (isBreak : Char → Bool) (s : LineSplitter) (c : Char) :
    s.lines <+: (s.push isBreak c).lines := by
  have htake : ∀ s' : LineSplitter, s'.lines <+: (s'.take isBreak c).lines := by
    intro s'
    unfold take
    split
    · exact List.prefix_rfl
    · split
      · exact lines_close s' ▸ List.prefix_append _ _
      · exact List.prefix_rfl
  have hclose : s.lines <+: s.close.lines := lines_close s ▸ List.prefix_append _ _
  unfold push
  split
  · split
    · exact hclose
    · exact hclose.trans (htake _)
  · exact htake s

end LineSplitter

namespace Text

/-- The lines of a text, without their ends. -/
def lines (isBreak : Char → Bool) (t : Text) : List Text :=
  (t.foldl (LineSplitter.push isBreak) {}).finish

theorem lines_nil (isBreak : Char → Bool) : lines isBreak [] = [] := rfl

end Text

end Excerpt
