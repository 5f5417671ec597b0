import Excerpt.Journal
import Excerpt.Selector
import Excerpt.Selector.Numbers

/-!
# Selector bodies

What stands between the brackets of a selector: blocks with commas between them, where a comma
inside braces does not count. A block is a line, a range of lines, or a line with a colon and the
spans of its columns, which may stand in braces of their own. In front of a block of an edit stands
the letter of its kind.

* `blocks_of_isBlank`: a blank body has no blocks.
* `columnParts?_eq_some`: a block names columns when a colon comes before every dash.
* `readHighlights_none`, `readEdits_none`: without a selector nothing is selected.
-/

namespace Excerpt

/-- A selector as it is written, and how its lines are meant. -/
structure SelectorSource where
  body : Text
  mode : Addressing := .absolute
  deriving DecidableEq, Repr

/-! ## Blocks -/

/-- The depth of braces behind a character. It may fall below zero. -/
def depthBehind (depth : Int) (c : Char) : Int :=
  if c = '\x7b' then depth + 1 else if c = '\x7d' then depth - 1 else depth

/-- The pieces between the commas at depth zero; `current` is the piece that is being read, newest
character first. -/
def splitBlocks (depth : Int) (current : Text) : Text → List Text
  | [] => [current.reverse]
  | c :: rest =>
    if c = ',' ∧ depth = 0 then current.reverse :: splitBlocks depth [] rest
    else splitBlocks (depthBehind depth c) (c :: current) rest

/-- The blocks of a body. -/
def blocks (body : Text) : List Text :=
  if body.isBlank then [] else (splitBlocks 0 [] body).map Text.trim

/-- The line and the spans of a block that names columns: it has a colon, and no dash before
it. -/
def columnParts? (block : Text) : Option (Text × Text) :=
  (Text.cut ':' block).filter fun parts => !parts.1.contains '-'

/-- The spans without the braces around them. -/
def unbrace (spans : Text) : Text :=
  match spans with
  | '\x7b' :: rest => if rest.getLast? = some '\x7d' then rest.dropLast else spans
  | _ => spans

/-- Reads one span of columns. -/
def readColumns (line : Nat) (span : Text) : Except Fault Item :=
  match readSpan "character range".toList span with
  | .error fault => .error fault
  | .ok (first, last) => (CharRange.of line first last).map .columns

/-- Reads one block. -/
def readBlock (block : Text) : Except Fault (List Item) :=
  if block.isEmpty then .error .emptyBlock
  else match columnParts? block with
    | some (before, after) =>
      match readNumber "line number".toList before with
      | .error fault => .error fault
      | .ok line => (Text.splitOn '|' (unbrace (Text.trim after))).mapM (readColumns line)
    | none => readLines block
where
  /-- Reads a block that names whole lines. -/
  readLines (block : Text) : Except Fault (List Item) :=
    if block.contains '-' then
      match readSpan "line range".toList block with
      | .error fault => .error fault
      | .ok (first, last) => (LineRange.of first last).map fun r => [.range r]
    else
      match readNumber "line number".toList block with
      | .error fault => .error fault
      | .ok line => (LineNumber.of line).map fun n => [.line n]

/-- Reads one block against the block of code that the command names. -/
def readBlockAt (block : Text) (mode : Addressing) (base : Option LineRange) :
    Except Fault (List Item) :=
  match readBlock block with
  | .error fault => .error fault
  | .ok items => items.mapM fun item => mode.resolve item base

/-! ## Highlights and edits -/

/-- Reads the highlights of a command. -/
def readHighlights : Option SelectorSource → Except Fault Highlights
  | none => .ok {}
  | some source =>
    match (blocks source.body).mapM readBlock with
    | .error fault => .error fault
    | .ok items => .ok ⟨items.flatten, source.mode⟩

/-- The kind of edit that a block begins with, and what stands behind its letter. -/
def editOf? : Text → Option (EditKind × Text)
  | [] => none
  | c :: rest => (EditKind.ofLetter? c).map fun kind => (kind, Text.trim rest)

/-- Reads one block of edits. A block without a letter hides its lines. -/
def readEdit (block : Text) : Journal (List Edit) := do
  let (kind, body) ← match editOf? block with
    | some edit => pure edit
    | none =>
      Journal.tell (.editWithoutKind block)
      pure (EditKind.hide, block)
  let items ← Journal.lift (readBlock body)
  pure (items.map fun item => ⟨item, kind⟩)

/-- Reads the edits of a command. -/
def readEdits : Option SelectorSource → Journal Edits
  | none => pure {}
  | some source => do
    let edits ← (blocks source.body).mapM readEdit
    pure ⟨edits.flatten, source.mode⟩

/-! ## Laws -/

theorem blocks_of_isBlank {body : Text} (h : body.isBlank = true) : blocks body = [] := by
  simp [blocks, h]

theorem splitBlocks_ne_nil (depth : Int) (current t : Text) :
    splitBlocks depth current t ≠ [] := by
  induction t generalizing depth current with
  | nil => simp [splitBlocks]
  | cons c rest ih =>
    simp only [splitBlocks]
    split
    · simp
    · exact ih _ _

theorem columnParts?_eq_some {block before after : Text} :
    columnParts? block = some (before, after) ↔
      Text.cut ':' block = some (before, after) ∧ '-' ∉ before := by
  simp [columnParts?, Option.filter_eq_some_iff]

theorem readHighlights_none : readHighlights none = .ok {} := rfl

theorem readEdits_none : readEdits none = pure {} := rfl

end Excerpt
