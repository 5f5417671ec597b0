import Excerpt.Disk.Feed
import Excerpt.Journal
import Excerpt.Selector.Numbers
import Excerpt.Text.Blank

/-!
# Markers

A source file names its blocks by markers: the word, and in parentheses an identifier and a span
of lines, counted from the line of the marker. A marker may stand anywhere in a line, and a line
may hold several; the search goes on behind each marker that it meets. The first marker with an
identifier, by line and then by column, decides. A file that breaks off before one is met is no
file without a block: what the system reports then is the fault.

* `locate_missing`: a file that cannot be opened has no block.
-/

namespace Excerpt

/-- The text of a marker between its parentheses. -/
structure Marker where
  id : Text
  span : Text
  deriving DecidableEq, Repr

namespace Marker

/-- What a marker begins with. -/
def opening : Text := ['c', 'o', 'd', 'e', '_', 'b', 'l', 'o', 'c', 'k', '(']

/-- The marker at the beginning of a text: the identifier ends at the first colon, the span at the
first closing parenthesis, and neither holds a parenthesis. -/
def atStart? (t : Text) : Option Marker :=
  (Text.dropStart? opening t).bind fun rest =>
    let isId (c : Char) : Bool := c != ':' && c != '(' && c != ')'
    match rest.dropWhile isId with
    | ':' :: behind =>
      let isSpan (c : Char) : Bool := c != '(' && c != ')'
      match behind.dropWhile isSpan with
      | ')' :: _ => some ⟨rest.takeWhile isId, behind.takeWhile isSpan⟩
      | _ => none
    | _ => none

/-- A marker as it is written. -/
def text (m : Marker) : Text := opening ++ (m.id ++ ':' :: (m.span ++ [')']))

/-- The markers that are met in a text from left to right, behind as many characters: the search
goes on behind each of them. -/
def scanBehind : Nat → Text → List Marker
  | _, [] => []
  | skipped + 1, _ :: rest => scanBehind skipped rest
  | 0, c :: rest =>
    match atStart? (c :: rest) with
    | some m => m :: scanBehind (m.text.length - 1) rest
    | none => scanBehind 0 rest

/-- The markers of a line, in order. -/
def scan (line : Text) : List Marker := scanBehind 0 line

/-- The first marker with the identifier, and its line. -/
def find? (id : Text) : Nat → List Text → Option (Nat × Marker)
  | _, [] => none
  | n, line :: rest =>
    match (scan line).find? (fun m => Text.trim m.id == id) with
    | some marker => some (n, marker)
    | none => find? id (n + 1) rest

/-- The lines of the block with the identifier. Lines behind the marker are not looked at. -/
def locate (disk : Disk) (path : Path) (id : Text) : Journal LineRange :=
  match disk.feed? path with
  | .error e => Journal.fail (.ofSource path e)
  | .ok feed =>
    match find? id 1 feed.lines with
    | none =>
      match feed.flaw with
      | some (.notDecoded flaw) => Journal.fail (.sourceNotDecoded path flaw)
      | some (.notRead cause) => Journal.fail (.brokenOff cause)
      | none => Journal.fail (.blockNotFound id path)
    | some (n, marker) =>
      match readSpan "marker range".toList marker.span with
      | .error fault => Journal.fail fault
      | .ok (first, last) => do
        Journal.tell (.located id n path)
        Journal.lift (LineRange.of ((n + first : Nat) : Int) ((n + last : Nat) : Int))

theorem locate_missing {disk : Disk} {path : Path} {e : OpenError} (h : disk.feed? path = .error e)
    (id : Text) : locate disk path id = Journal.fail (.ofSource path e) := by
  simp [locate, h]

end Marker

end Excerpt
