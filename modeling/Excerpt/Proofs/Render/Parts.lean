import Excerpt.Proofs.Render.Survival

/-!
# A block in two parts

What becomes of a line depends on the block around it at one place only: an ellipsis over a range is
shown on the last line of the range that was found. So a block can be rendered in two parts, one
behind the other, wherever no ellipsis goes over the end of the first.

* `Rendering.line_congr`: a line in two blocks.
* `CodeBlock.IsCut.numbered_eq`: the lines of the parts keep their numbers.
* `CodeBlock.IsCut.lastOf_front`, `CodeBlock.IsCut.lastOf_back`: the last lines of ranges.
* `Rendering.lines_of_parts`: the lines of the block.
-/

namespace Excerpt

/-! ## Parts of a block -/

namespace CodeBlock

/-- Whether a block is the lines of one block and behind them those of another, as numbered. -/
structure IsCut (whole front back : CodeBlock) : Prop where
  lines : whole.lines = front.lines ++ back.lines
  first : front.range.first = whole.range.first
  second : back.range.first = whole.range.first + front.lines.length

/-- Whether an ellipsis goes over the end of the first part: it is over the last line there and over
the first line of the second part. -/
def Crosses (front back : CodeBlock) (range : LineRange) : Prop :=
  front.lines ≠ [] ∧ back.lines ≠ [] ∧ range.contains front.lastLine = true ∧
    range.contains back.range.first = true

namespace IsCut

variable {whole front back : CodeBlock} {n : Nat} {raw : Text}

theorem numbered_eq (h : IsCut whole front back) :
    whole.numbered = front.numbered ++ back.numbered := by
  unfold numbered
  rw [h.lines, List.mapIdx_append, h.first, h.second]
  simp only [Nat.add_assoc, Nat.add_comm front.lines.length]

theorem lastOf_front (h : IsCut whole front back) (hLine : (n, raw) ∈ front.numbered)
    {range : LineRange} (hContains : range.contains n = true)
    (hApart : ¬ Crosses front back range) :
    n = whole.lastOf range ↔ n = front.lastOf range := by
  obtain ⟨-, hLast⟩ := bounds_of_mem_numbered hLine
  obtain ⟨hLow, hHigh⟩ := LineRange.contains_iff.mp hContains
  have hEnd := front.lastLine_add_one
  have hWhole := whole.lastLine_add_one
  rw [h.lines, List.length_append] at hWhole
  have hFirst := h.first
  have hSecond := h.second
  unfold lastOf
  by_cases hWithin : range.last ≤ front.lastLine
  · omega
  · -- a range that goes on behind the first part would cross, so nothing stands there
    have hNone : back.lines = [] := by
      by_contra hSome
      refine hApart ⟨?_, hSome, LineRange.contains_iff.mpr (by omega),
        LineRange.contains_iff.mpr (by omega)⟩
      intro hEmpty
      rw [numbered, hEmpty] at hLine
      cases hLine
    rw [hNone, List.length_nil] at hWhole
    omega

theorem lastOf_back (h : IsCut whole front back) (range : LineRange) :
    whole.lastOf range = back.lastOf range := by
  have hEnd := back.lastLine_add_one
  have hWhole := whole.lastLine_add_one
  rw [h.lines, List.length_append] at hWhole
  have hSecond := h.second
  unfold lastOf
  omega

end IsCut

end CodeBlock

/-! ## The lines of the parts -/

theorem Edit.apply_congr {edit : Edit} {block block' : CodeBlock} {style : CommentStyle} {n : Nat}
    {raw : Text} (h : ∀ range, edit = ⟨.range range, .ellipsis⟩ →
      (n = block.lastOf range ↔ n = block'.lastOf range)) :
    edit.apply raw n block style = edit.apply raw n block' style := by
  obtain ⟨item, kind⟩ := edit
  cases item with
  | columns columns => rfl
  | line item => cases kind <;> rfl
  | range range =>
    cases kind with
    | hide => rfl
    | remove => rfl
    | ellipsis =>
      have hLast := h range rfl
      unfold CodeBlock.lastOf at hLast
      simp only [apply, Int.natCast_inj, hLast]

namespace Rendering

variable {r : Rendering} {whole front back : CodeBlock} {n : Nat} {raw : Text}

theorem line_congr {block block' : CodeBlock}
    (h : ∀ range, r.edits.firstMatch n = some ⟨.range range, .ellipsis⟩ →
      (n = block.lastOf range ↔ n = block'.lastOf range)) :
    r.line block n raw = r.line block' n raw := by
  have hEdited : r.edited block n raw = r.edited block' n raw := by
    unfold edited
    cases hMatch : r.edits.firstMatch n with
    | none => rfl
    | some edit =>
      apply Edit.apply_congr
      intro range hEdit
      exact h range (hEdit ▸ hMatch)
  unfold line
  rw [hEdited]

theorem line_front (hCut : whole.IsCut front back)
    (hApart : ∀ range, ⟨.range range, .ellipsis⟩ ∈ r.edits.items → ¬ front.Crosses back range)
    (hLine : (n, raw) ∈ front.numbered) : r.line whole n raw = r.line front n raw := by
  apply line_congr
  intro range hMatch
  obtain ⟨hMem, hContains⟩ := Edits.mem_of_firstMatch hMatch
  exact hCut.lastOf_front hLine hContains (hApart range hMem)

theorem line_back (hCut : whole.IsCut front back) : r.line whole n raw = r.line back n raw := by
  apply line_congr
  intro range _
  rw [hCut.lastOf_back]

/-- A block is rendered as its parts are, one behind the other, if no ellipsis goes over the end of
the first. If one of them cannot be rendered, the block ends with the fault of the first that
cannot. -/
theorem lines_of_parts (hCut : whole.IsCut front back)
    (hApart : ∀ range, ⟨.range range, .ellipsis⟩ ∈ r.edits.items → ¬ front.Crosses back range) :
    r.lines whole = r.lines front >>= fun lines => (r.lines back).map (lines ++ ·) := by
  have hFront : front.numbered.mapM (fun p => r.line whole p.1 p.2) =
      front.numbered.mapM fun p => r.line front p.1 p.2 :=
    mapM_congr_mem fun p hp => line_front hCut hApart hp
  have hBack : back.numbered.mapM (fun p => r.line whole p.1 p.2) =
      back.numbered.mapM fun p => r.line back p.1 p.2 :=
    mapM_congr_mem fun p _ => line_back hCut
  rw [lines_eq_map, lines_eq_map, lines_eq_map, hCut.numbered_eq, List.mapM_append, hFront, hBack]
  cases front.numbered.mapM fun p => r.line front p.1 p.2 with
  | error fault => rfl
  | ok rendered =>
    cases back.numbered.mapM fun p => r.line back p.1 p.2 with
    | error fault => rfl
    | ok rendered' => exact congrArg Except.ok List.filterMap_append

/-- An ellipsis ends where the first part ends, and another begins behind it. -/
theorem lines_of_parts_twoEllipses :
    ∃ (r : Rendering) (whole front back : CodeBlock), whole.IsCut front back ∧
      (∀ range, ⟨.range range, .ellipsis⟩ ∈ r.edits.items → ¬ front.Crosses back range) ∧
      r.lines front = .ok ["// ...".toList] ∧ r.lines back = .ok ["  // ...".toList] ∧
      r.lines whole = .ok ["// ...".toList, "  // ...".toList] := by
  let r : Rendering := ⟨.slashes, {}, ⟨[⟨.range ⟨1, 2, by decide, by decide⟩, .ellipsis⟩,
    ⟨.range ⟨3, 9, by decide, by decide⟩, .ellipsis⟩], .absolute⟩, {}⟩
  let front : CodeBlock := ⟨⟨1, 2, by decide, by decide⟩, ["a".toList, "b".toList]⟩
  let back : CodeBlock := ⟨⟨3, 4, by decide, by decide⟩, ["c".toList, "  d".toList]⟩
  let whole : CodeBlock := ⟨⟨1, 4, by decide, by decide⟩, front.lines ++ back.lines⟩
  have hCut : whole.IsCut front back := ⟨rfl, rfl, rfl⟩
  have hApart : ∀ range, ⟨.range range, .ellipsis⟩ ∈ r.edits.items →
      ¬ front.Crosses back range := by
    rintro range hMem ⟨-, -, hLast, hFirst⟩
    simp only [r, List.mem_cons, List.not_mem_nil, or_false, Edit.mk.injEq, Item.range.injEq,
      and_true] at hMem
    rcases hMem with rfl | rfl
    · cases hFirst
    · cases hLast
  have hFront : r.lines front = .ok ["// ...".toList] := by rfl
  have hBack : r.lines back = .ok ["  // ...".toList] := by rfl
  refine ⟨r, whole, front, back, hCut, hApart, hFront, hBack, ?_⟩
  rw [lines_of_parts hCut hApart, hFront, hBack]
  rfl

end Rendering

end Excerpt
