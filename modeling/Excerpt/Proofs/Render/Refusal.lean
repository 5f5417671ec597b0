import Excerpt.Proofs.Outcome
import Excerpt.Render

/-!
# Blocks that cannot be rendered

A line of a block is refused for one of two reasons: columns of it are to be edited that it does not
have, or more spaces are to be put in front of what is left of it than can be counted. The fault of
a block is that of the first line that is refused.

* `shiftIndent_eq_error_iff`, `Edit.apply_eq_error_iff`: the two reasons, where they arise.
* `Rendering.line_eq_error_iff`, `Rendering.lines_eq_error_iff`, `Rendering.text_eq_error_iff`: the
  lines and blocks that are refused.
* `Rendering.exists_text_error_iff`: a block is refused with any of its lines.
* `Rendering.Refuses.kind`: the kinds of the two faults.
-/

namespace Excerpt

theorem shiftIndent_eq_error_iff {line : Text} {change : Int} {fault : Fault} :
    shiftIndent line change = .error fault ↔
      line ≠ [] ∧ Fault.sizeLimit < change ∧ fault = .sizeTooLarge := by
  unfold shiftIndent
  by_cases hMore : 0 < change
  · rw [if_pos hMore]
    cases line with
    | nil => simp
    | cons c rest =>
      by_cases hLimit : (Fault.sizeLimit : Int) < change
      · simp [hLimit, eq_comm]
      · simp [hLimit]
  · rw [if_neg hMore]
    have hLimit : ¬ (Fault.sizeLimit : Int) < change := fun h => hMore (by omega)
    simp [hLimit]

theorem Edit.apply_eq_error_iff {edit : Edit} {line : Text} {n : Int} {block : CodeBlock}
    {style : CommentStyle} {fault : Fault} :
    edit.apply line n block style = .error fault ↔
      ∃ columns, edit.item = .columns columns ∧ line.length < columns.last ∧
        fault = .columnsBehindLine columns.first columns.last n line.length := by
  obtain ⟨item, kind⟩ := edit
  cases item with
  | columns columns =>
    by_cases hBehind : line.length < columns.last
    · simp [apply, hBehind, eq_comm]
    · simp [apply, hBehind]
  | line item => cases kind <;> simp [apply]
  | range item =>
    cases kind with
    | ellipsis =>
      simp only [apply, reduceCtorEq, false_and, exists_false, iff_false]
      split <;> exact nofun
    | hide | remove => simp [apply]

namespace Rendering

variable {r : Rendering} {block : CodeBlock} {n : Nat} {raw : Text} {fault : Fault}

/-- Why a line of a block is refused. -/
inductive Refuses (r : Rendering) (block : CodeBlock) (n : Nat) (raw : Text) : Fault → Prop
  | columns {columns : CharRange} {kind : EditKind}
      (hMatch : r.edits.firstMatch n = some ⟨.columns columns, kind⟩)
      (hBehind : raw.length < columns.last) :
      Refuses r block n raw (.columnsBehindLine columns.first columns.last n raw.length)
  | indent {left : Text} (hLeft : r.edited block n raw = .ok (some left))
      (hText : (r.highlights.apply left n).2 ≠ [])
      (hIndent : Fault.sizeLimit < r.options.indent) : Refuses r block n raw .sizeTooLarge

theorem Refuses.kind (h : r.Refuses block n raw fault) :
    fault.kind = .range ∨ fault.kind = .overflow := by
  cases h with
  | columns => exact .inl rfl
  | indent => exact .inr rfl

theorem edited_eq_error_iff :
    r.edited block n raw = .error fault ↔ ∃ columns kind,
      r.edits.firstMatch n = some ⟨.columns columns, kind⟩ ∧ raw.length < columns.last ∧
        fault = .columnsBehindLine columns.first columns.last n raw.length := by
  unfold edited
  cases hMatch : r.edits.firstMatch n with
  | none => simp
  | some edit =>
    obtain ⟨item, kind⟩ := edit
    simp only [Edit.apply_eq_error_iff, Option.some.injEq, Edit.mk.injEq]
    constructor
    · rintro ⟨columns, rfl, hBehind, rfl⟩
      exact ⟨columns, kind, ⟨rfl, rfl⟩, hBehind, rfl⟩
    · rintro ⟨columns, _, ⟨rfl, rfl⟩, hBehind, rfl⟩
      exact ⟨columns, rfl, hBehind, rfl⟩

theorem finished_eq_error_iff {left : Text} :
    r.finished n left = .error fault ↔ (r.highlights.apply left n).2 ≠ [] ∧
      Fault.sizeLimit < r.options.indent ∧ fault = .sizeTooLarge := by
  unfold finished
  rw [map_eq_error_iff, shiftIndent_eq_error_iff]

theorem line_eq_error_iff : r.line block n raw = .error fault ↔ r.Refuses block n raw fault := by
  constructor
  · intro h
    unfold line at h
    split at h
    · rename_i hEdited
      cases h
      obtain ⟨columns, kind, hMatch, hBehind, rfl⟩ := edited_eq_error_iff.mp hEdited
      exact .columns hMatch hBehind
    · cases h
    · rename_i left hLeft
      obtain ⟨hText, hIndent, rfl⟩ := finished_eq_error_iff.mp (map_eq_error_iff.mp h)
      exact .indent hLeft hText hIndent
  · intro h
    unfold line
    cases h with
    | columns hMatch hBehind =>
      rw [edited_eq_error_iff.mpr ⟨_, _, hMatch, hBehind, rfl⟩]
    | indent hLeft hText hIndent =>
      rw [hLeft]
      exact map_eq_error_iff.mpr (finished_eq_error_iff.mpr ⟨hText, hIndent, rfl⟩)

/-- Whether no line of the block is refused up to one that is, with the fault. -/
def RefusesFirst (r : Rendering) (block : CodeBlock) (fault : Fault) : Prop :=
  ∃ before n raw behind, block.numbered = before ++ (n, raw) :: behind ∧
    (∀ p ∈ before, ∀ other, ¬ r.Refuses block p.1 p.2 other) ∧ r.Refuses block n raw fault

theorem not_refuses_iff :
    (∀ other, ¬ r.Refuses block n raw other) ↔ ∃ left, r.line block n raw = .ok left := by
  simp only [← line_eq_error_iff]
  cases r.line block n raw <;> simp

theorem lines_eq_map : r.lines block =
    (block.numbered.mapM fun p => r.line block p.1 p.2).map (List.filterMap id) := by
  unfold lines
  cases block.numbered.mapM fun p => r.line block p.1 p.2 <;> rfl

theorem text_eq_map : r.text block = (block.numbered.mapM fun p => r.line block p.1 p.2).map
    fun rendered => (rendered.filterMap id).flatMap (· ++ ['\n']) := by
  unfold text
  rw [lines_eq_map]
  cases block.numbered.mapM fun p => r.line block p.1 p.2 <;> rfl

theorem lines_eq_error_iff : r.lines block = .error fault ↔ r.RefusesFirst block fault := by
  rw [lines_eq_map, map_eq_error_iff, mapM_eq_error_iff]
  unfold RefusesFirst
  simp only [not_refuses_iff, Prod.exists, line_eq_error_iff]

theorem text_eq_error_iff : r.text block = .error fault ↔ r.RefusesFirst block fault := by
  rw [text, map_eq_error_iff, lines_eq_error_iff]

/-- A block is refused if any line of it is. -/
theorem exists_text_error_iff :
    (∃ fault, r.text block = .error fault) ↔
      ∃ p ∈ block.numbered, ∃ fault, r.Refuses block p.1 p.2 fault := by
  constructor
  · rintro ⟨fault, h⟩
    obtain ⟨before, n, raw, behind, hSplit, -, hRefuses⟩ := text_eq_error_iff.mp h
    exact ⟨(n, raw), by simp [hSplit], fault, hRefuses⟩
  · rintro ⟨p, hp, fault, hRefuses⟩
    cases hText : r.text block with
    | error other => exact ⟨other, rfl⟩
    | ok text =>
      rw [text_eq_map] at hText
      obtain ⟨rendered, hLines, -⟩ := map_eq_ok_iff.mp hText
      obtain ⟨left, -, hLeft⟩ := ok_of_mapM hLines hp
      exact absurd hRefuses (not_refuses_iff.mpr ⟨left, hLeft⟩ fault)

end Rendering

end Excerpt
