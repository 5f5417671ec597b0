import Excerpt.Proofs.Insertion.Phases
import Excerpt.Proofs.Lines
import Excerpt.Proofs.Text.Pieces

/-!
# The characters of rendered lines

A line that is read from a source file has no line feed. What rendering puts into it are the marks
of highlights, the spaces of the indentation and comments, some of them with an ellipsis; all other
characters of a rendered line are those of the line it comes from. So no rendered line has a line
feed either, and the text of a block is cut into just these lines.

* `CodeBlock.not_mem_of_read`: the lines that are read.
* `Rendering.exists_raw_of_mem_lines`: the characters of a rendered line.
* `Insertion.not_mem_of_mem_lines`: the rendered lines of a command.
-/

namespace Excerpt

/-! ## Lines that are read -/

namespace LineSplitter.HoldsNoBreak

variable {s : LineSplitter}

theorem not_mem_finish (h : s.HoldsNoBreak isSourceBreak) : ∀ line ∈ s.finish, '\n' ∉ line := by
  intro line hLine hMem
  cases h.finish line hLine '\n' hMem

theorem not_mem_lines (h : s.HoldsNoBreak isSourceBreak) : ∀ line ∈ s.lines, '\n' ∉ line := by
  intro line hLine hMem
  cases h.complete line (List.mem_reverse.mp hLine) '\n' hMem

end LineSplitter.HoldsNoBreak

namespace Feed

/-- Also the lines in front of a flaw are without line feeds. -/
theorem not_mem_ofPieces {s : FeedState} (h : s.splitter.HoldsNoBreak isSourceBreak)
    (broken : Option SystemError) (parts : List Bytes) :
    ∀ line ∈ (ofPieces s broken parts).lines, '\n' ∉ line := by
  induction parts generalizing s with
  | nil =>
    cases broken with
    | some cause => exact h.not_mem_lines
    | none =>
      unfold ofPieces FeedState.stop FeedState.finish
      dsimp only
      split
      · exact h.not_mem_lines
      · exact h.not_mem_finish
  | cons piece rest ih =>
    unfold ofPieces
    cases hTake : s.take piece with
    | error flaw => exact h.not_mem_lines
    | ok s' =>
      refine ih ?_
      unfold FeedState.take at hTake
      split at hTake
      · cases hTake
      · cases hTake
        exact h.foldl_push _

theorem not_mem_ofTransfer (t : Transfer) : ∀ line ∈ (ofTransfer t).lines, '\n' ∉ line :=
  not_mem_ofPieces (s := {}) LineSplitter.HoldsNoBreak.empty _ _

end Feed

theorem CodeBlock.not_mem_of_read {disk : Disk} {path : Path} {range : LineRange}
    {block : CodeBlock} (h : read disk path range = .ok block) :
    ∀ line ∈ block.lines, '\n' ∉ line := by
  have hWindow {feed : Feed} {lines : List Text} (h : window feed range = .ok lines) :
      lines ⊆ feed.lines := by
    have hLines : lines = (feed.lines.drop (range.first - 1)).take range.size := by
      unfold window at h
      dsimp only at h
      split at h
      · split at h
        · cases h
        · exact (Except.ok.inj h).symm
      · exact (Except.ok.inj h).symm
    rw [hLines]
    exact List.Subset.trans (List.take_subset _ _) (List.drop_subset _ _)
  unfold read at h
  split at h
  · cases h
  · rename_i hFeed
    obtain ⟨transfer, -, rfl⟩ := map_eq_ok_iff.mp hFeed
    split at h
    · cases h
    · rename_i hLines
      cases h
      exact fun line hLine => Feed.not_mem_ofTransfer _ line (hWindow hLines hLine)

/-! ## What is put into a line -/

theorem insertAt_subset (t : Text) (position : Int) (inserted : Text) :
    insertAt t position inserted ⊆ t ++ inserted := by
  unfold insertAt
  split
  · exact List.Subset.refl _
  · refine List.append_subset.mpr ⟨List.append_subset.mpr ⟨?_, ?_⟩, ?_⟩
    · exact List.subset_append_of_subset_left _ (List.take_subset _ _)
    · exact List.subset_append_right _ _
    · exact List.subset_append_of_subset_left _ (List.drop_subset _ _)

namespace Highlights

theorem markColumns_subset (line : Text) (columns : List CharRange) :
    markColumns line columns ⊆ line ++ spanMark := by
  unfold markColumns
  generalize columns.mergeSort _ = sorted
  induction sorted generalizing line with
  | nil => exact List.subset_append_left _ _
  | cons c rest ih =>
    rw [List.foldl_cons]
    refine List.Subset.trans (ih _) (List.append_subset.mpr ⟨?_, List.subset_append_right _ _⟩)
    refine List.Subset.trans (insertAt_subset _ _ _) (List.append_subset.mpr ⟨?_, ?_⟩)
    · exact insertAt_subset _ _ _
    · exact List.subset_append_right _ _

/-- The marker in front of a line, and the line behind it. -/
theorem apply_subset (h : Highlights) (line : Text) (n : Int) :
    (h.apply line n).1 ⊆ lineMark ∧ (h.apply line n).2 ⊆ line ++ spanMark := by
  unfold apply
  split
  · split
    · refine ⟨List.Subset.refl _, List.subset_append_of_subset_left _ ?_⟩
      unfold Text.dropStart?
      split
      · exact List.drop_subset _ _
      · exact List.Subset.refl _
    · exact ⟨List.nil_subset _, List.subset_append_left _ _⟩
  · exact ⟨List.nil_subset _, markColumns_subset _ _⟩

end Highlights

theorem shiftIndent_subset {line shifted : Text} {change : Int}
    (h : shiftIndent line change = .ok shifted) : shifted ⊆ line ++ [' '] := by
  unfold shiftIndent at h
  split at h
  · split at h
    · cases h
      exact List.subset_append_left _ _
    · split at h
      · cases h
      · cases h
        refine List.append_subset.mpr ⟨?_, List.subset_append_left _ _⟩
        intro c hc
        rw [List.eq_of_mem_replicate hc]
        simp
  · cases h
    exact List.subset_append_of_subset_left _ (List.drop_subset _ _)

/-- All that can be put into a line: the marks of highlights, spaces, and what comments in the style
are made of. -/
def CommentStyle.additions (s : CommentStyle) : Text :=
  Highlights.lineMark ++ Highlights.spanMark ++ [' '] ++ Edit.ellipsis ++ s.line ++ s.opening ++
    s.closing

namespace Edit

theorem ellipsisLine_subset (style : CommentStyle) (line : Text) :
    ellipsisLine style line ⊆ line ++ style.additions := by
  intro c hc
  simp only [ellipsisLine, CommentStyle.toEnd, CommentStyle.additions, List.mem_append] at hc ⊢
  rcases hc with hc | hc | hc
  · exact .inl (List.takeWhile_subset _ hc)
  · simp only [hc, true_or, or_true]
  · simp only [hc, true_or, or_true]

theorem applyColumns_subset (kind : EditKind) (columns : CharRange) (style : CommentStyle)
    (line : Text) : applyColumns kind columns style line ⊆ line ++ style.additions := by
  have hOuter : line.take (columns.first - 1) ++ line.drop columns.last ⊆ line :=
    List.append_subset.mpr ⟨List.take_subset _ _, List.drop_subset _ _⟩
  have hLine (t : Text) (h : t ⊆ line.take (columns.first - 1) ++ line.drop columns.last) :
      t ⊆ line ++ style.additions :=
    List.subset_append_of_subset_left _ (List.Subset.trans h hOuter)
  unfold applyColumns
  dsimp only
  split
  · refine List.append_subset.mpr ⟨List.append_subset.mpr ⟨?_, ?_⟩, ?_⟩
    · exact hLine _ (List.subset_append_left _ _)
    · intro c hc
      refine List.mem_append_right _ ?_
      simp only [CommentStyle.inside, CommentStyle.additions, List.mem_append] at hc ⊢
      rcases hc with (hc | hc) | hc
      · simp only [hc, true_or, or_true]
      · split at hc
        · rcases List.mem_append.mp hc with hc | hc <;> simp only [hc, true_or, or_true]
        · cases hc
      · simp only [hc, or_true]
    · exact hLine _ (List.subset_append_right _ _)
  · split
    · refine List.append_subset.mpr ⟨hLine _ ?_, List.subset_append_of_subset_right _ ?_⟩
      · exact (List.rdropWhile_prefix isBlank _).subset
      · intro c hc
        simp only [CommentStyle.toEnd, CommentStyle.additions, List.mem_cons,
          List.mem_append] at hc ⊢
        rcases hc with rfl | hc | hc
        · simp
        · simp only [hc, true_or, or_true]
        · simp only [hc, true_or, or_true]
    · exact hLine _ (List.Subset.refl _)

theorem apply_subset {edit : Edit} {line edited : Text} {n : Int} {block : CodeBlock}
    {style : CommentStyle} (h : edit.apply line n block style = .ok (some edited)) :
    edited ⊆ line ++ style.additions := by
  obtain ⟨item, kind⟩ := edit
  cases item with
  | columns columns =>
    simp only [apply] at h
    split at h
    · cases h
    · cases h
      exact applyColumns_subset kind columns style line
  | line item =>
    cases kind with
    | ellipsis =>
      cases h
      exact ellipsisLine_subset style line
    | hide =>
      cases h
      exact List.nil_subset _
    | remove => cases h
  | range item =>
    cases kind with
    | ellipsis =>
      simp only [apply] at h
      split at h
      · cases h
        exact ellipsisLine_subset style line
      · cases h
    | hide =>
      cases h
      exact List.nil_subset _
    | remove => cases h

end Edit

namespace Rendering

variable {r : Rendering} {block : CodeBlock}

theorem line_subset {n : Nat} {raw rendered : Text}
    (h : r.line block n raw = .ok (some rendered)) : rendered ⊆ raw ++ r.style.additions := by
  have hEdited {left : Text} (hLeft : r.edited block n raw = .ok (some left)) :
      left ⊆ raw ++ r.style.additions := by
    unfold edited at hLeft
    split at hLeft
    · split at hLeft
      · cases hLeft
      · cases hLeft
        exact List.subset_append_left _ _
    · exact Edit.apply_subset hLeft
  unfold line at h
  split at h
  · cases h
  · cases h
  · rename_i left hLeft
    obtain ⟨finished, hFinished, hSome⟩ := map_eq_ok_iff.mp h
    obtain rfl := Option.some.inj hSome
    obtain ⟨shifted, hShifted, rfl⟩ := map_eq_ok_iff.mp hFinished
    obtain ⟨hMarker, hMarked⟩ := r.highlights.apply_subset left n
    have hMark {c : Char} (hc : c ∈ Highlights.lineMark ∨ c ∈ Highlights.spanMark ∨ c ∈ [' ']) :
        c ∈ raw ++ r.style.additions := by
      refine List.mem_append_right _ ?_
      simp only [CommentStyle.additions, List.mem_append]
      rcases hc with hc | hc | hc <;> simp only [hc, true_or, or_true]
    intro c hc
    rcases List.mem_append.mp hc with hc | hc
    · exact hMark (.inl (hMarker hc))
    · rcases List.mem_append.mp (shiftIndent_subset hShifted hc) with hc | hc
      · rcases List.mem_append.mp (hMarked hc) with hc | hc
        · exact hEdited hLeft hc
        · exact hMark (.inr (.inl hc))
      · exact hMark (.inr (.inr hc))

/-- The characters of a rendered line are those of a line of the block, and what is put into it. -/
theorem exists_raw_of_mem_lines {rendered : List Text} (h : r.lines block = .ok rendered)
    {line : Text} (hLine : line ∈ rendered) :
    ∃ raw ∈ block.lines, line ⊆ raw ++ r.style.additions := by
  rw [lines_eq_map] at h
  obtain ⟨all, hAll, rfl⟩ := map_eq_ok_iff.mp h
  have hMem : some line ∈ all := by simpa using hLine
  obtain ⟨⟨n, raw⟩, hNumbered, hOk⟩ := exists_of_forall₂ (mapM_eq_ok_iff.mp hAll).flip hMem
  obtain ⟨i, hi, hRaw⟩ := List.mem_mapIdx.mp hNumbered
  obtain ⟨-, rfl⟩ := Prod.mk.inj hRaw
  exact ⟨block.lines[i], List.getElem_mem hi, line_subset hOk⟩

end Rendering

namespace Insertion

theorem not_mem_additions (tag : Text) : '\n' ∉ (CommentStyle.ofTag tag).additions := by
  unfold CommentStyle.ofTag
  dsimp only
  split
  · decide
  · split
    · decide
    · split
      · decide
      · split <;> decide

/-- The lines of a command are rendered without line feeds. -/
theorem not_mem_of_mem_lines {sources : Sources} {line : Text} {i : Insertion}
    {rendered : List Text} (hBuild : (build sources line).outcome = .ok i)
    (hLines : i.rendering.lines i.block = .ok rendered) : ∀ l ∈ rendered, '\n' ∉ l := by
  intro l hl hFeed
  rw [build_eq] at hBuild
  simp only [Journal.outcome_bind, Journal.outcome_lift, outcome_fetch] at hBuild
  obtain ⟨c, -, hBuild⟩ := bind_eq_ok_iff.mp hBuild
  obtain ⟨wanted, -, hBuild⟩ := bind_eq_ok_iff.mp hBuild
  obtain ⟨block, hBlock, hBuild⟩ := bind_eq_ok_iff.mp hBuild
  obtain ⟨range, -, hRead⟩ := bind_eq_ok_iff.mp hBlock
  cases hBuild
  obtain ⟨raw, hRaw, hSubset⟩ := Rendering.exists_raw_of_mem_lines hLines hl
  rcases List.mem_append.mp (hSubset hFeed) with hFeed | hFeed
  · exact CodeBlock.not_mem_of_read hRead raw hRaw hFeed
  · exact not_mem_additions _ hFeed

end Insertion

end Excerpt
