import Excerpt.Proofs.Render.Refusal
import Mathlib.Data.List.Basic

/-!
# A block that stands further down

A block and everything that is said about its lines by number can be moved down together. What a
rendering does with a line depends on whether its number is named and, for an ellipsis over a range,
on whether it is the last one, so the lines come out as before. Only the fault of columns that end
behind their line names the line by its number.

* `Edits.firstMatch_shift`, `Highlights.apply_shift`: one line, and what applies to it.
* `Rendering.text_shift`: the text of the block.
-/

namespace Excerpt

/-! ## Selectors -/

theorem CharRange.one_le_line_add (c : CharRange) (k : Nat) : 1 ≤ c.line + k :=
  Nat.le_add_right_of_le c.one_le_line

/-- The same columns `k` lines further down. -/
def CharRange.shift (k : Nat) (c : CharRange) : CharRange :=
  { c with
    line := c.line + k
    one_le_line := c.one_le_line_add k }

theorem Item.shift_shift (item : Item) (j k : Nat) :
    (item.shift j).shift k = item.shift (j + k) := by
  cases item <;> simp [Item.shift, LineRange.shift, Nat.add_assoc]

namespace Highlights

/-- The same highlights `k` lines further down. -/
def shift (k : Nat) (h : Highlights) : Highlights := ⟨h.items.map (Item.shift k), h.mode⟩

theorem columnsOf_shift (h : Highlights) (k : Nat) (n : Int) :
    (h.shift k).columnsOf (n + k) = (h.columnsOf n).map (CharRange.shift k) := by
  obtain ⟨items, mode⟩ := h
  simp only [columnsOf, shift, List.filterMap_map, List.map_filterMap]
  refine List.filterMap_congr fun item _ => ?_
  cases item with
  | line item => rfl
  | range item => rfl
  | columns item =>
    have hLine : (n + k == ((item.line + k : Nat) : Int)) = (n == (item.line : Int)) := by
      rw [Bool.eq_iff_iff, beq_iff_eq, beq_iff_eq]
      omega
    simp only [Function.comp_apply, Item.shift, hLine]
    split <;> rfl

theorem marks_shift (h : Highlights) (k : Nat) (n : Int) :
    (h.shift k).marks (n + k) = h.marks n := by
  simp only [marks, shift, List.any_map]
  congr 1
  funext item
  cases item with
  | line item => exact Item.contains_shift (.line item) k n
  | range item => exact Item.contains_shift (.range item) k n
  | columns item => rfl

theorem markColumns_shift (line : Text) (columns : List CharRange) (k : Nat) :
    markColumns line (columns.map (CharRange.shift k)) = markColumns line columns := by
  have hSort := List.map_mergeSort (f := CharRange.shift k) (l := columns)
    (r := fun a b => decide (b.first ≤ a.first)) (s := fun a b => decide (b.first ≤ a.first))
    (fun _ _ _ _ => rfl)
  unfold markColumns
  rw [← hSort, List.foldl_map]
  rfl

theorem apply_shift (h : Highlights) (k : Nat) (line : Text) (n : Int) :
    (h.shift k).apply line (n + k) = h.apply line n := by
  unfold apply
  rw [columnsOf_shift, marks_shift]
  cases hc : h.columnsOf n with
  | nil => rfl
  | cons c rest =>
    rw [← hc]
    have hMarks := markColumns_shift line (h.columnsOf n) k
    rw [hc] at hMarks ⊢
    simpa using hMarks

end Highlights

/-! ## Edits -/

/-- The same edit `k` lines further down. -/
def Edit.shift (k : Nat) (e : Edit) : Edit := ⟨e.item.shift k, e.kind⟩

/-- The same edits `k` lines further down. -/
def Edits.shift (k : Nat) (e : Edits) : Edits := ⟨e.items.map (Edit.shift k), e.mode⟩

theorem Edits.firstMatch_shift (e : Edits) (k : Nat) (n : Int) :
    (e.shift k).firstMatch (n + k) = (e.firstMatch n).map (Edit.shift k) := by
  unfold firstMatch Edits.shift
  simp only [List.find?_map]
  have hContains : (fun edit : Edit => edit.item.contains (n + k)) ∘ Edit.shift k =
      fun edit => edit.item.contains n := by
    funext edit
    exact Item.contains_shift edit.item k n
  rw [hContains]

/-- The same block `k` lines further down. -/
def CodeBlock.shift (k : Nat) (b : CodeBlock) : CodeBlock := ⟨b.range.shift k, b.lines⟩

theorem CodeBlock.lastLine_shift (b : CodeBlock) (k : Nat) :
    (b.shift k).lastLine = b.lastLine + k := by
  have := b.range.one_le_first
  simp only [lastLine, shift, LineRange.shift]
  omega

theorem CodeBlock.numbered_shift (b : CodeBlock) (k : Nat) :
    (b.shift k).numbered = b.numbered.map fun (n, line) => (n + k, line) := by
  simp only [numbered, shift, LineRange.shift, List.mapIdx_eq_zipIdx_map, List.map_map]
  refine List.map_congr_left fun numbered _ => ?_
  simp [Nat.add_right_comm]

theorem Edit.apply_shift (e : Edit) (k : Nat) (line : Text) (n : Nat) (block : CodeBlock)
    (style : CommentStyle) :
    Alike ((e.shift k).apply line ((n + k : Nat) : Int) (block.shift k) style)
      (e.apply line n block style) := by
  obtain ⟨item, kind⟩ := e
  cases item with
  | columns columns =>
    simp only [Edit.shift, Item.shift, Edit.apply]
    split
    · exact alike_error_iff.mpr rfl
    · exact alike_refl _
  | line item => cases kind <;> exact alike_refl _
  | range range =>
    cases kind with
    | hide => exact alike_refl _
    | remove => exact alike_refl _
    | ellipsis =>
      simp only [Edit.shift, Item.shift, Edit.apply, CodeBlock.lastLine_shift, LineRange.shift]
      have hLast : (((n + k : Nat) : Int) = (min (range.last + k) (block.lastLine + k) : Nat)) ↔
          (((n : Nat) : Int) = (min range.last block.lastLine : Nat)) := by omega
      simp only [hLast]
      exact alike_refl _

/-! ## The rendering -/

namespace Rendering

/-- The rendering of what stands `k` lines further down. -/
def shift (k : Nat) (r : Rendering) : Rendering :=
  { r with
    highlights := r.highlights.shift k
    edits := r.edits.shift k }

variable (r : Rendering) (block : CodeBlock) (k n : Nat) (raw : Text)

theorem edited_shift :
    Alike ((r.shift k).edited (block.shift k) (n + k) raw) (r.edited block n raw) := by
  unfold edited
  have hMatch : (r.shift k).edits.firstMatch ((n + k : Nat) : Int) =
      (r.edits.firstMatch n).map (Edit.shift k) := by
    rw [Int.natCast_add]
    exact Edits.firstMatch_shift r.edits k n
  rw [hMatch]
  cases r.edits.firstMatch n with
  | none => exact alike_refl _
  | some edit => exact Edit.apply_shift edit k raw n block r.style

theorem finished_shift : (r.shift k).finished (n + k) raw = r.finished n raw := by
  unfold finished
  have hApply : (r.shift k).highlights.apply raw ((n + k : Nat) : Int) =
      r.highlights.apply raw n := by
    rw [Int.natCast_add]
    exact Highlights.apply_shift r.highlights k raw n
  rw [hApply]
  rfl

theorem line_eq_bind : r.line block n raw = r.edited block n raw >>= fun edited =>
    match edited with
    | none => .ok none
    | some line => (r.finished n line).map some := by
  unfold line
  cases r.edited block n raw with
  | error fault => rfl
  | ok edited => cases edited <;> rfl

theorem line_shift :
    Alike ((r.shift k).line (block.shift k) (n + k) raw) (r.line block n raw) := by
  rw [line_eq_bind, line_eq_bind]
  refine alike_bind (edited_shift r block k n raw) fun edited _ => ?_
  cases edited with
  | none => exact alike_refl _
  | some line =>
    change Alike (((r.shift k).finished (n + k) line).map some) ((r.finished n line).map some)
    rw [finished_shift]
    exact alike_refl _

theorem text_shift : Alike ((r.shift k).text (block.shift k)) (r.text block) := by
  unfold text
  rw [lines_eq_map, lines_eq_map, CodeBlock.numbered_shift, List.mapM_map]
  refine alike_map (alike_map (alike_mapM _ fun numbered _ => ?_) _) _
  exact line_shift r block k numbered.1 numbered.2

end Rendering

end Excerpt
