import Excerpt.Proofs.Render.Reorder
import Excerpt.Proofs.Render.Survival

/-!
# Ranges line by line

A range in a selector says no more than the lines of it one by one, in its place. For highlights and
for edits that hide or remove these are all its lines; for an ellipsis all lines are removed up to
the last one that was found, which is the one to show it. And an edit says nothing if edits before it
name all lines of the block that it names.

Other items may stand before and behind, and may name the same lines. So all of this is said of what
the first edit of a list does with a line, which for lists one behind the other is what the first of
them does, or else the second.

* `LineRange.exists_mem_members_iff`: the lines of a range.
* `Edit.decided_append`: the first edit that names a line, in two lists.
* `Edit.decided_members`, `Edit.decided_collapsed`: a range and its lines.
* `Rendering.lines_spelled_out`: the lines of a block.
-/

namespace Excerpt

/-! ## The lines of a range -/

/-- So many lines, from the given one on. -/
def LineNumber.run (start : LineNumber) (count : Nat) : List LineNumber :=
  (List.range count).map fun i => ⟨start.line + i, Nat.le_add_right_of_le start.one_le_line⟩

theorem LineNumber.exists_mem_run_iff {start : LineNumber} {count n : Nat} :
    (∃ l ∈ start.run count, l.line = n) ↔ start.line ≤ n ∧ n < start.line + count := by
  unfold run
  constructor
  · rintro ⟨l, hl, rfl⟩
    obtain ⟨i, hi, rfl⟩ := List.mem_map.mp hl
    have := List.mem_range.mp hi
    simp only
    omega
  · intro h
    refine ⟨_, List.mem_map.mpr ⟨n - start.line, List.mem_range.mpr (by omega), rfl⟩, ?_⟩
    simp only
    omega

namespace LineRange

/-- The line with which a range begins. -/
def start (range : LineRange) : LineNumber := ⟨range.first, range.one_le_first⟩

/-- The lines of a range. -/
def members (range : LineRange) : List LineNumber := range.start.run range.size

theorem exists_mem_members_iff {range : LineRange} {n : Nat} :
    (∃ l ∈ range.members, l.line = n) ↔ range.contains n = true := by
  have hOrder := range.first_le_last
  have hStart : range.start.line = range.first := rfl
  rw [members, LineNumber.exists_mem_run_iff, contains_iff, size, hStart]
  omega

end LineRange

theorem Item.contains_line_iff {l : LineNumber} {n : Nat} :
    (Item.line l).contains n = true ↔ l.line = n := by
  simp only [contains, beq_iff_eq, Int.natCast_inj]
  exact eq_comm

/-! ## Highlights -/

namespace Highlights

variable {before after middle middle' : List Item} {mode : Addressing} {n : Nat}

theorem apply_replace (line : Text)
    (hColumns : columnsOf ⟨middle, mode⟩ n = columnsOf ⟨middle', mode⟩ n)
    (hMarks : marks ⟨middle, mode⟩ n = marks ⟨middle', mode⟩ n) :
    apply ⟨before ++ middle ++ after, mode⟩ line n =
      apply ⟨before ++ middle' ++ after, mode⟩ line n := by
  have hAllColumns : columnsOf ⟨before ++ middle ++ after, mode⟩ n =
      columnsOf ⟨before ++ middle' ++ after, mode⟩ n := by
    unfold columnsOf at hColumns ⊢
    simp only [List.filterMap_append, hColumns]
  have hAllMarks : marks ⟨before ++ middle ++ after, mode⟩ n =
      marks ⟨before ++ middle' ++ after, mode⟩ n := by
    unfold marks at hMarks ⊢
    simp only [List.any_append, hMarks]
  unfold apply
  rw [hAllColumns, hAllMarks]

theorem columnsOf_lines (lines : List LineNumber) (mode : Addressing) (n : Int) :
    columnsOf ⟨lines.map .line, mode⟩ n = [] := by
  unfold columnsOf
  apply List.filterMap_eq_nil_iff.mpr
  intro item hItem
  obtain ⟨l, -, rfl⟩ := List.mem_map.mp hItem
  rfl

theorem marks_lines_iff {lines : List LineNumber} {mode : Addressing} {n : Nat} :
    marks ⟨lines.map .line, mode⟩ n = true ↔ ∃ l ∈ lines, l.line = n := by
  simp only [marks, List.any_map, List.any_eq_true, Function.comp_apply, Item.contains_line_iff]

theorem marks_members (range : LineRange) (mode : Addressing) (n : Nat) :
    marks ⟨[.range range], mode⟩ n = marks ⟨range.members.map .line, mode⟩ n := by
  have hRange : marks ⟨[.range range], mode⟩ n = range.contains n := Bool.or_false _
  rw [hRange, Bool.eq_iff_iff, marks_lines_iff, LineRange.exists_mem_members_iff]

end Highlights

/-! ## Edits -/

namespace Edit

variable {block : CodeBlock} {style : CommentStyle} {n : Nat} {raw : Text}

/-- What the first edit of a list that names a line does with it. -/
def decided (items : List Edit) (block : CodeBlock) (style : CommentStyle) (n : Nat) (raw : Text) :
    Option (Except Fault (Option Text)) :=
  (items.find? fun edit => edit.item.contains n).map fun edit => edit.apply raw n block style

theorem decided_append (items items' : List Edit) :
    decided (items ++ items') block style n raw =
      (decided items block style n raw).or (decided items' block style n raw) := by
  unfold decided
  rw [List.find?_append]
  cases items.find? fun edit => edit.item.contains n <;> rfl

theorem decided_eq_none_iff {items : List Edit} :
    decided items block style n raw = none ↔ ∀ edit ∈ items, edit.item.contains n = false := by
  simp [decided]

theorem decided_singleton {item : Item} (h : item.contains n = true) (kind : EditKind) :
    decided [⟨item, kind⟩] block style n raw = some (apply ⟨item, kind⟩ raw n block style) := by
  simp [decided, h]

theorem decided_singleton_eq_none {item : Item} (h : ¬ item.contains n = true) (kind : EditKind) :
    decided [⟨item, kind⟩] block style n raw = none := by
  simp [decided, h]

/-- The edits of one kind of the given lines. -/
def ofLines (kind : EditKind) (lines : List LineNumber) : List Edit :=
  lines.map fun l => ⟨.line l, kind⟩

/-- An edit of a line does not depend on its number. -/
theorem decided_ofLines {kind : EditKind} {lines : List LineNumber}
    (h : ∃ l ∈ lines, l.line = n) (l : LineNumber) :
    decided (ofLines kind lines) block style n raw =
      some (apply ⟨.line l, kind⟩ raw n block style) := by
  obtain ⟨named, hNamed, hNumber⟩ := h
  cases hDecided : decided (ofLines kind lines) block style n raw with
  | none =>
    have hPassed := decided_eq_none_iff.mp hDecided _ (List.mem_map_of_mem hNamed)
    rw [Item.contains_line_iff.mpr hNumber] at hPassed
    cases hPassed
  | some result =>
    obtain ⟨edit, hEdit, rfl⟩ := Option.map_eq_some_iff.mp hDecided
    obtain ⟨l', -, rfl⟩ := List.mem_map.mp (List.mem_of_find?_eq_some hEdit)
    cases kind <;> rfl

theorem decided_ofLines_eq_none {kind : EditKind} {lines : List LineNumber}
    (h : ¬ ∃ l ∈ lines, l.line = n) : decided (ofLines kind lines) block style n raw = none := by
  apply decided_eq_none_iff.mpr
  intro edit hEdit
  obtain ⟨l, hl, rfl⟩ := List.mem_map.mp hEdit
  apply Bool.eq_false_iff.mpr
  intro hContains
  exact h ⟨l, hl, Item.contains_line_iff.mp hContains⟩

/-- What hides or removes a range hides or removes each of its lines. -/
theorem decided_members {kind : EditKind} (hKind : kind ≠ .ellipsis) (range : LineRange) :
    decided [⟨.range range, kind⟩] block style n raw =
      decided (ofLines kind range.members) block style n raw := by
  by_cases hContains : (Item.range range).contains n = true
  · have hNamed := LineRange.exists_mem_members_iff.mpr hContains
    rw [decided_singleton hContains, decided_ofLines hNamed range.start]
    cases kind with
    | ellipsis => exact absurd rfl hKind
    | hide => rfl
    | remove => rfl
  · have hNone := mt LineRange.exists_mem_members_iff.mp hContains
    rw [decided_singleton_eq_none hContains, decided_ofLines_eq_none hNone]

/-- The edits that remove the lines of a range before the given one, which shows an ellipsis. -/
def collapsed (range : LineRange) (last : LineNumber) : List Edit :=
  ofLines .remove (range.start.run (last.line - range.first)) ++ [⟨.line last, .ellipsis⟩]

/-- What puts an ellipsis over a range removes each of its lines up to the last that was found. -/
theorem decided_collapsed {range : LineRange} {last : LineNumber}
    (hLast : last.line = block.lastOf range) (hReached : range.first ≤ last.line)
    (hFound : n ≤ block.lastLine) :
    decided [⟨.range range, .ellipsis⟩] block style n raw =
      decided (collapsed range last) block style n raw := by
  have hRemoved : (∃ l ∈ range.start.run (last.line - range.first), l.line = n) ↔
      range.first ≤ n ∧ n < last.line := by
    have hStart : range.start.line = range.first := rfl
    rw [LineNumber.exists_mem_run_iff, hStart]
    omega
  unfold CodeBlock.lastOf at hLast
  rw [collapsed, decided_append]
  by_cases hContains : (Item.range range).contains n = true
  · obtain ⟨hLow, hHigh⟩ := LineRange.contains_iff.mp hContains
    rw [decided_singleton hContains]
    by_cases hBefore : n < last.line
    · rw [decided_ofLines (hRemoved.mpr ⟨hLow, hBefore⟩) last, Option.some_or]
      have hOther : ¬ (n : Int) = (min range.last block.lastLine : Nat) := by omega
      exact congrArg some (if_neg hOther)
    · have hShown : (n : Int) = (min range.last block.lastLine : Nat) := by omega
      have hNamed : (Item.line last).contains n = true := Item.contains_line_iff.mpr (by omega)
      rw [decided_ofLines_eq_none (mt hRemoved.mp (by omega)), Option.none_or,
        decided_singleton hNamed]
      exact congrArg some (if_pos hShown)
  · have hOutside := mt LineRange.contains_iff.mpr hContains
    have hOther : ¬ (Item.line last).contains n = true := by
      rw [Item.contains_line_iff]
      omega
    rw [decided_singleton_eq_none hContains, decided_ofLines_eq_none (mt hRemoved.mp (by omega)),
      decided_singleton_eq_none hOther]
    rfl

end Edit

namespace Rendering

variable {r : Rendering} {block : CodeBlock} {n : Nat} {raw : Text}

/-- The same rendering with other edits. -/
def withEdits (r : Rendering) (items : List Edit) : Rendering :=
  { r with edits := ⟨items, r.edits.mode⟩ }

/-- Only what becomes of the lines of a block counts. -/
theorem lines_congr {r' : Rendering}
    (h : ∀ n raw, (n, raw) ∈ block.numbered → r.line block n raw = r'.line block n raw) :
    r.lines block = r'.lines block := by
  rw [lines_eq_map, lines_eq_map, mapM_congr_mem fun p hp => h p.1 p.2 hp]

theorem edited_withEdits (items : List Edit) :
    (r.withEdits items).edited block n raw = (Edit.decided items block r.style n raw).getD
      (.ok (if r.options.hideComments && r.style.isComment raw then none else some raw)) := by
  have hMatch : (r.withEdits items).edits.firstMatch n =
      items.find? fun edit => edit.item.contains n := rfl
  unfold edited Edit.decided
  rw [hMatch]
  cases items.find? fun edit => edit.item.contains n <;> rfl

theorem lines_withEdits {items items' : List Edit}
    (h : ∀ n raw, (n, raw) ∈ block.numbered →
      Edit.decided items block r.style n raw = Edit.decided items' block r.style n raw) :
    (r.withEdits items).lines block = (r.withEdits items').lines block := by
  apply lines_congr
  intro n raw hLine
  have hEdited : (r.withEdits items).edited block n raw =
      (r.withEdits items').edited block n raw := by
    rw [edited_withEdits, edited_withEdits, h n raw hLine]
  unfold line
  rw [hEdited]
  rfl

/-- Some of the edits in a list, replaced by others that do the same. -/
theorem lines_replaceEdits {before after middle middle' : List Edit}
    (h : ∀ n raw, (n, raw) ∈ block.numbered →
      Edit.decided middle block r.style n raw = Edit.decided middle' block r.style n raw) :
    (r.withEdits (before ++ middle ++ after)).lines block =
      (r.withEdits (before ++ middle' ++ after)).lines block := by
  apply lines_withEdits
  intro n raw hLine
  simp only [Edit.decided_append, h n raw hLine]

theorem lines_members (r : Rendering) (block : CodeBlock) (before after : List Item)
    (range : LineRange) :
    (r.withItems (before ++ [.range range] ++ after)).lines block =
      (r.withItems (before ++ range.members.map .line ++ after)).lines block := by
  apply lines_congr
  intro n raw hLine
  have hFinished : (r.withItems (before ++ [.range range] ++ after)).finished n =
      (r.withItems (before ++ range.members.map .line ++ after)).finished n := by
    funext left
    have hApply :
        Highlights.apply ⟨before ++ [.range range] ++ after, r.highlights.mode⟩ left n =
          Highlights.apply ⟨before ++ range.members.map .line ++ after, r.highlights.mode⟩ left n :=
      Highlights.apply_replace left (Highlights.columnsOf_lines _ _ _).symm
        (Highlights.marks_members _ _ _)
    unfold finished withItems
    rw [hApply]
  unfold line
  rw [edited_withItems, edited_withItems, hFinished]

/-- An edit that names no line of the block but those that edits before it name. -/
theorem lines_shadowed {before after : List Edit} {edit : Edit}
    (h : ∀ p ∈ block.numbered, edit.item.contains p.1 = true →
      ∃ other ∈ before, other.item.contains p.1 = true) :
    (r.withEdits (before ++ edit :: after)).lines block =
      (r.withEdits (before ++ after)).lines block := by
  apply lines_withEdits
  intro n raw hLine
  have hSplit : edit :: after = [edit] ++ after := rfl
  rw [hSplit, Edit.decided_append, Edit.decided_append, Edit.decided_append]
  by_cases hContains : edit.item.contains n = true
  · obtain ⟨other, hOther, hNames⟩ := h (n, raw) hLine hContains
    cases hBefore : Edit.decided before block r.style n raw with
    | none =>
      rw [Edit.decided_eq_none_iff.mp hBefore other hOther] at hNames
      cases hNames
    | some result => rfl
  · rw [Edit.decided_singleton_eq_none hContains, Option.none_or]

/-- A range says no more than its lines in its place, and an edit says nothing if edits before it
name all lines of the block that it names. -/
theorem lines_spelled_out (r : Rendering) (block : CodeBlock) :
    (∀ before range after,
      (r.withItems (before ++ .range range :: after)).lines block =
        (r.withItems (before ++ range.members.map .line ++ after)).lines block) ∧
    (∀ before range kind after, kind ≠ .ellipsis →
      (r.withEdits (before ++ ⟨.range range, kind⟩ :: after)).lines block =
        (r.withEdits (before ++ Edit.ofLines kind range.members ++ after)).lines block) ∧
    (∀ before range after (last : LineNumber), last.line = block.lastOf range →
      range.first ≤ last.line →
      (r.withEdits (before ++ ⟨.range range, .ellipsis⟩ :: after)).lines block =
        (r.withEdits (before ++ Edit.collapsed range last ++ after)).lines block) ∧
    ∀ before edit after, (∀ p ∈ block.numbered, edit.item.contains p.1 = true →
        ∃ other ∈ before, other.item.contains p.1 = true) →
      (r.withEdits (before ++ edit :: after)).lines block =
        (r.withEdits (before ++ after)).lines block := by
  refine ⟨?_, ?_, ?_, fun _ _ _ => lines_shadowed⟩
  · intro before range after
    rw [← lines_members r block before after range, List.append_assoc]
    rfl
  · intro before range kind after hKind
    rw [← lines_replaceEdits fun n raw _ => Edit.decided_members hKind range, List.append_assoc]
    rfl
  · intro before range after last hLast hReached
    rw [← lines_replaceEdits fun n raw hLine =>
      Edit.decided_collapsed hLast hReached (CodeBlock.bounds_of_mem_numbered hLine).2,
      List.append_assoc]
    rfl

/-- An ellipsis behind an edit of its first line, over a range that goes beyond the block. -/
theorem lines_spelled_out_pastEnd :
    ∃ (r : Rendering) (block : CodeBlock) (hidden : Edit) (range : LineRange) (last : LineNumber),
      last.line = block.lastOf range ∧ range.first ≤ last.line ∧
      (r.withEdits ([hidden] ++ ⟨.range range, .ellipsis⟩ :: [])).lines block =
        (r.withEdits ([hidden] ++ Edit.collapsed range last ++ [])).lines block ∧
      (r.withEdits ([hidden] ++ ⟨.range range, .ellipsis⟩ :: [])).lines block =
        .ok [[], "  // ...".toList] := by
  let r : Rendering := { style := .slashes }
  let block : CodeBlock :=
    ⟨⟨1, 3, by decide, by decide⟩, ["a".toList, "b".toList, "  c".toList]⟩
  let hidden : Edit := ⟨.line ⟨1, by decide⟩, .hide⟩
  let range : LineRange := ⟨1, 9, by decide, by decide⟩
  let last : LineNumber := ⟨3, by decide⟩
  have hLast : last.line = block.lastOf range := rfl
  have hReached : range.first ≤ last.line := by decide
  have hSame := (lines_spelled_out r block).2.2.1 [hidden] range [] last hLast hReached
  exact ⟨r, block, hidden, range, last, hLast, hReached, hSame, by rfl⟩

end Rendering

end Excerpt
