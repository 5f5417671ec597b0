import Excerpt.Language
import Excerpt.Selector
import Excerpt.Source.Block

/-!
# Edits of a line

An edit of whole lines empties them, drops them, or puts one comment with an ellipsis in their
place, indented like the line it stands for: for a range that is the last line of it that was
found. An edit of columns puts a comment in their place; a language that has no comments inside a
line cuts the columns out and puts the ellipsis at the end.

* `apply_hide`: hiding whole lines leaves them empty.
* `apply_remove`: removing whole lines drops them.
* `apply_columns_error_iff`: columns are refused exactly when they end behind the line.
-/

namespace Excerpt

namespace Edit

/-- What stands for the code that is left out. -/
def ellipsis : Text := " ...".toList

/-- The comment that stands for a line. -/
def ellipsisLine (style : CommentStyle) (line : Text) : Text :=
  Text.indentation line ++ style.toEnd ellipsis

/-- The line with columns taken out. -/
def applyColumns (kind : EditKind) (columns : CharRange) (style : CommentStyle) (line : Text) :
    Text :=
  let head := line.take (columns.first - 1)
  let tail := line.drop columns.last
  if style.hasBlocks then
    let filling := if kind = .ellipsis then ellipsis ++ [' '] else []
    head ++ style.inside filling ++ tail
  else if kind = .ellipsis then
    Text.trimEnd (head ++ tail) ++ ' ' :: style.toEnd ellipsis
  else head ++ tail

/-- What becomes of a line to which the edit applies; `none` if it is dropped. -/
def apply (edit : Edit) (line : Text) (number : Int) (block : CodeBlock)
    (style : CommentStyle) : Except Fault (Option Text) :=
  match edit.item, edit.kind with
  | .columns columns, kind =>
    if line.length < columns.last then
      .error (.columnsBehindLine columns.first columns.last number line.length)
    else .ok (some (applyColumns kind columns style line))
  | _, .hide => .ok (some [])
  | _, .remove => .ok none
  | .line _, .ellipsis => .ok (some (ellipsisLine style line))
  | .range range, .ellipsis =>
    if number = (min range.last block.lastLine : Nat) then .ok (some (ellipsisLine style line))
    else .ok none

/-- Whether the item names whole lines. -/
def IsWhole : Item → Prop
  | .columns _ => False
  | _ => True

theorem apply_hide {item : Item} (h : IsWhole item) (line : Text) (number : Int)
    (block : CodeBlock) (style : CommentStyle) :
    apply ⟨item, .hide⟩ line number block style = .ok (some []) := by
  cases item with
  | columns => exact h.elim
  | _ => rfl

theorem apply_remove {item : Item} (h : IsWhole item) (line : Text) (number : Int)
    (block : CodeBlock) (style : CommentStyle) :
    apply ⟨item, .remove⟩ line number block style = .ok none := by
  cases item with
  | columns => exact h.elim
  | _ => rfl

theorem apply_columns_error_iff {columns : CharRange} {kind : EditKind} {line : Text}
    {number : Int} {block : CodeBlock} {style : CommentStyle} :
    (∃ fault, apply ⟨.columns columns, kind⟩ line number block style = .error fault) ↔
      line.length < columns.last := by
  unfold apply
  simp only
  split <;> simp_all

end Edit

end Excerpt
