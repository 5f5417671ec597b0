import Excerpt.Selector

/-!
# Highlights of a line

Columns are highlighted by marks on both sides. They are put in from the right, so that marks that
are already there do not move the columns that are still to come; columns that begin at the same
place keep the order of the selector. A line without such columns is marked as a whole by a star
in front of it, which takes the place of one space.

* `insertAt_length`: putting a text in adds its length.
* `markColumns_nil`: without columns the line stays.
* `apply_unmarked`: a line that no item names stays, and has no marker.
-/

namespace Excerpt

/-- The text with another put in before the position; a negative position counts from the end. -/
def insertAt (t : Text) (position : Int) (inserted : Text) : Text :=
  if t.length ≤ position then t ++ inserted
  else
    let index := if position < 0 then (t.length + position).toNat else position.toNat
    t.take index ++ inserted ++ t.drop index

namespace Highlights

/-- The mark around columns. -/
def spanMark : Text := ['\x60']

/-- The mark in front of a line. -/
def lineMark : Text := ['*']

/-- Marks the columns of a line, the last first. -/
def markColumns (line : Text) (columns : List CharRange) : Text :=
  (columns.mergeSort (fun a b => b.first ≤ a.first)).foldl (fun line c =>
    insertAt (insertAt line c.last spanMark) ((c.first - 1 : Nat) : Int) spanMark) line

/-- The marker in front of a line and the line behind it. -/
def apply (h : Highlights) (line : Text) (number : Int) : Text × Text :=
  match h.columnsOf number with
  | [] =>
    if h.marks number then (lineMark, (Text.dropStart? [' '] line).getD line) else ([], line)
  | columns => ([], markColumns line columns)

theorem insertAt_length (t : Text) (position : Int) (inserted : Text) :
    (insertAt t position inserted).length = t.length + inserted.length := by
  unfold insertAt
  split
  · simp
  · simp only [List.length_append, List.length_take, List.length_drop]
    split <;> omega

theorem markColumns_nil (line : Text) : markColumns line [] = line := by
  simp [markColumns]

theorem apply_unmarked {h : Highlights} {line : Text} {number : Int}
    (hColumns : h.columnsOf number = []) (hMarks : h.marks number = false) :
    h.apply line number = ([], line) := by
  simp [apply, hColumns, hMarks]

end Highlights

end Excerpt
