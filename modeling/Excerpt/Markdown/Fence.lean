import Excerpt.Text.Blank

/-!
# Fences in Markdown

A fence is a line with at most three blanks in front and a run of at least three backticks or
tildes; anything may follow. The first fence opens a block, and the next one with the same
character that is at least as long closes it. Fences and what stands inside a block are protected.

* `protect_lines`: every line is judged, and none is changed.
* `isProtected_of_open`: inside a block every line is protected.
-/

namespace Excerpt.Markdown

/-- The run of a fence. -/
structure Fence where
  mark : Char
  length : Nat
  deriving DecidableEq, Repr

namespace Fence

/-- Whether the text stands on one line, up to one line feed at its end. -/
def isOneLine (t : Text) : Bool :=
  let t := if t.getLast? = some '\n' then t.dropLast else t
  !t.contains '\n'

/-- The fence that a line is, if it is one. -/
def ofLine? (line : Text) : Option Fence :=
  let run := Text.trimStart line
  if 3 < (Text.indentation line).length then none
  else match run with
    | [] => none
    | c :: _ =>
      let length := (run.takeWhile (· == c)).length
      if (c = '\x60' || c = '~') && 3 ≤ length && isOneLine (run.drop length) then
        some ⟨c, length⟩
      else none

/-- Whether a fence closes the block that another one opened. -/
def closes (fence opening : Fence) : Bool :=
  fence.mark = opening.mark && opening.length ≤ fence.length

/-- The block that is open behind a line, given the one that is open before it. -/
def stateBehind (opened : Option Fence) (line : Text) : Option Fence :=
  match ofLine? line, opened with
  | none, opened => opened
  | some fence, none => some fence
  | some fence, some opening => if fence.closes opening then none else some opening

/-- Whether a line is a fence or stands inside a block. -/
def isProtected (opened : Option Fence) (line : Text) : Bool :=
  opened.isSome || (ofLine? line).isSome

/-- The lines, and which of them are protected. -/
def protect (opened : Option Fence) : List Text → List (Bool × Text)
  | [] => []
  | line :: rest => (isProtected opened line, line) :: protect (stateBehind opened line) rest

theorem protect_lines (opened : Option Fence) (lines : List Text) :
    (protect opened lines).map Prod.snd = lines := by
  induction lines generalizing opened with
  | nil => rfl
  | cons line rest ih => simp [protect, ih]

theorem isProtected_of_open (opening : Fence) (line : Text) :
    isProtected (some opening) line = true := rfl

end Fence

end Excerpt.Markdown
