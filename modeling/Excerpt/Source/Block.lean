import Excerpt.Disk.Feed
import Excerpt.Fault
import Excerpt.Selector.Item

/-!
# Blocks of code

A block is the part of a source file that a range of lines names. The file may end before the
range does; then the block is shorter. Reading stops behind the line after the range, and a flaw
of the file that is met before that fails the whole read.

* `length_window_le`: a block has no more lines than its range.
* `lastLine_add_one`: the lines of a block are numbered without a gap.
-/

namespace Excerpt

/-- A range, and the lines that were found in it. -/
structure CodeBlock where
  range : LineRange
  lines : List Text
  deriving DecidableEq, Repr

namespace CodeBlock

/-- The number of the last line that was found. -/
def lastLine (b : CodeBlock) : Nat := b.range.first + b.lines.length - 1

/-- The lines with their numbers. -/
def numbered (b : CodeBlock) : List (Nat × Text) :=
  b.lines.mapIdx fun i line => (b.range.first + i, line)

/-- The lines of a feed that the range names, unless a flaw is met first. -/
def window (feed : Feed) (range : LineRange) : Except FeedFlaw (List Text) :=
  let lines := (feed.lines.drop (range.first - 1)).take range.size
  match feed.flaw with
  | some flaw => if feed.lines.length ≤ range.last then .error flaw else .ok lines
  | none => .ok lines

/-- The fault of a source whose lines cannot be read. A file that breaks off is reported like one
that is not opened. -/
def faultOf (path : Path) : FeedFlaw → Fault
  | .notDecoded flaw => .sourceNotDecoded path flaw
  | .notRead cause => .sourceNotOpened path (.transfer cause)

/-- Reads a block of a file. -/
def read (disk : Disk) (path : Path) (range : LineRange) : Except Fault CodeBlock :=
  match disk.feed? path with
  | .error e => .error (.ofSource path e)
  | .ok feed =>
    match window feed range with
    | .error flaw => .error (faultOf path flaw)
    | .ok lines => .ok ⟨range, lines⟩

theorem length_window_le {feed : Feed} {range : LineRange} {lines : List Text}
    (h : window feed range = .ok lines) : lines.length ≤ range.size := by
  have hlen : ((feed.lines.drop (range.first - 1)).take range.size).length ≤ range.size := by
    rw [List.length_take]
    exact Nat.min_le_left _ _
  unfold window at h
  simp only at h
  split at h
  · split at h
    · cases h
    · cases h
      exact hlen
  · cases h
    exact hlen

theorem lastLine_add_one (b : CodeBlock) : b.lastLine + 1 = b.range.first + b.lines.length := by
  have := b.range.one_le_first
  unfold lastLine
  omega

end CodeBlock

end Excerpt
