import Excerpt.Proofs.Render.Ties

/-!
# The order of highlighted columns

Columns are marked from the right to the left, so their order in the selector only matters for
columns that begin together: these are marked in the order of the selector. Every order of the
columns comes from every other one if columns that begin together change places, one pair at a
time, and columns that are marked later do not hide the difference.

* `foldl_of_steady`: if no such change is seen, all orders give the same line.
* `markColumns_perm_iff`: the lines for which no order of the columns matters.
* `steady_of_ends`, `steady_pair_iff`: columns that also end together, and a pair that does not.
* `apply_perm_iff`: the lines for which no order of the highlights matters.
-/

namespace Excerpt

namespace Highlights

/-! ## Columns of a line -/

/-- Whether columns stand in the order in which they are marked. -/
def IsOrdered (columns : List CharRange) : Prop :=
  columns.Pairwise fun a b => b.first ≤ a.first

theorem markColumns_of_isOrdered {columns : List CharRange} (h : IsOrdered columns)
    (line : Text) : markColumns line columns = columns.foldl markSpan line := by
  have hSorted : columns.Pairwise fun a b => decide (b.first ≤ a.first) = true :=
    h.imp decide_eq_true
  rw [markColumns_eq, inOrder, List.mergeSort_of_pairwise hSorted]

/-- Whether no order in which columns that begin together can be marked is seen. -/
def Steady (columns : List CharRange) (line : Text) : Prop :=
  ∀ before c d behind, (before ++ c :: d :: behind).Perm columns →
    IsOrdered (before ++ c :: d :: behind) → c.first = d.first → c.last < d.last →
      Unseen (before.foldl markSpan line) c d

/-- The order does not matter if columns that begin together also end together. -/
theorem steady_of_ends {columns : List CharRange}
    (h : ∀ c ∈ columns, ∀ d ∈ columns, c.first = d.first → c.last = d.last) (line : Text) :
    Steady columns line := by
  intro before c d behind hPerm _ hStart hEnd
  have hC : c ∈ columns := hPerm.subset (by simp)
  have hD : d ∈ columns := hPerm.subset (by simp)
  have hSame := h c hC d hD hStart
  omega

theorem isOrdered_swap {before behind : List CharRange} {c d : CharRange}
    (hStart : c.first = d.first) (h : IsOrdered (before ++ c :: d :: behind)) :
    IsOrdered (before ++ d :: c :: behind) := by
  unfold IsOrdered at h ⊢
  simp only [List.pairwise_append, List.pairwise_cons, List.mem_cons] at h ⊢
  grind

theorem swap_of_steady {columns before behind : List CharRange} {c d : CharRange} {line : Text}
    (hSteady : Steady columns line) (hPerm : (before ++ c :: d :: behind).Perm columns)
    (hOrdered : IsOrdered (before ++ c :: d :: behind)) (hStart : c.first = d.first) :
    (before ++ c :: d :: behind).foldl markSpan line =
      (before ++ d :: c :: behind).foldl markSpan line := by
  have hSwap : markSpan (markSpan (before.foldl markSpan line) c) d =
      markSpan (markSpan (before.foldl markSpan line) d) c := by
    rcases Nat.lt_trichotomy c.last d.last with hEnd | hEnd | hEnd
    · exact (markSpan_swap_iff hStart hEnd).mpr (hSteady _ _ _ _ hPerm hOrdered hStart hEnd)
    · simp only [markSpan_eq, hStart, hEnd]
    · have hPerm' : (before ++ d :: c :: behind).Perm columns :=
        ((List.Perm.swap c d behind).append_left before).trans hPerm
      have hOrdered' := isOrdered_swap hStart hOrdered
      exact ((markSpan_swap_iff hStart.symm hEnd).mpr
        (hSteady _ _ _ _ hPerm' hOrdered' hStart.symm hEnd)).symm
  rw [List.foldl_append, List.foldl_append, List.foldl_cons, List.foldl_cons, List.foldl_cons,
    List.foldl_cons, hSwap]

/-- Columns can be marked before others that begin together with them. -/
theorem foldl_front_of_steady {columns before behind : List CharRange} {c : CharRange}
    {line : Text} (hSteady : Steady columns line) (hPerm : (before ++ c :: behind).Perm columns)
    (hOrdered : IsOrdered (before ++ c :: behind)) (hFirst : ∀ b ∈ before, b.first = c.first) :
    (before ++ c :: behind).foldl markSpan line =
      (c :: (before ++ behind)).foldl markSpan line := by
  induction before using List.reverseRecOn generalizing behind with
  | nil => rfl
  | append_singleton before b ih =>
    rw [List.append_assoc, List.singleton_append] at hPerm hOrdered ⊢
    have hStart : b.first = c.first := hFirst b (by simp)
    have hPerm' : (before ++ c :: b :: behind).Perm columns :=
      ((List.Perm.swap b c behind).append_left before).trans hPerm
    rw [swap_of_steady hSteady hPerm hOrdered hStart,
      ih hPerm' (isOrdered_swap hStart hOrdered) fun x hx => hFirst x (by simp [hx]),
      List.append_assoc, List.singleton_append]

theorem Steady.tail {c : CharRange} {rest : List CharRange} {line : Text}
    (hSteady : Steady (c :: rest) line) (hFirst : ∀ d ∈ rest, d.first ≤ c.first) :
    Steady rest (markSpan line c) := by
  intro before d e behind hPerm hOrdered hStart hEnd
  refine hSteady (c :: before) d e behind (hPerm.cons c) ?_ hStart hEnd
  exact List.pairwise_cons.mpr ⟨fun x hx => hFirst x (hPerm.subset hx), hOrdered⟩

theorem foldl_of_steady {columns columns' : List CharRange} {line : Text}
    (hSteady : Steady columns line) (hPerm : columns.Perm columns') (hOrdered : IsOrdered columns)
    (hOrdered' : IsOrdered columns') :
    columns.foldl markSpan line = columns'.foldl markSpan line := by
  induction columns generalizing columns' line with
  | nil => rw [hPerm.nil_eq]
  | cons c rest ih =>
    obtain ⟨hFirst, hRest⟩ := List.pairwise_cons.mp hOrdered
    obtain ⟨before, behind, rfl⟩ := List.append_of_mem (hPerm.subset List.mem_cons_self)
    -- in one order they are marked after `c`, in the other before it
    have hTogether : ∀ b ∈ before, b.first = c.first := by
      intro b hb
      have hLess : b.first ≤ c.first := by
        rcases List.mem_cons.mp (hPerm.symm.subset (List.mem_append_left _ hb)) with rfl | hMem
        · exact Nat.le_refl _
        · exact hFirst b hMem
      have hMore : c.first ≤ b.first :=
        (List.pairwise_append.mp hOrdered').2.2 b hb c List.mem_cons_self
      omega
    have hTail : rest.Perm (before ++ behind) :=
      (hPerm.trans List.perm_middle).cons_inv
    have hOrderedTail : IsOrdered (before ++ behind) :=
      List.Pairwise.sublist ((List.sublist_cons_self c behind).append_left before) hOrdered'
    rw [foldl_front_of_steady hSteady hPerm.symm hOrdered' hTogether, List.foldl_cons,
      List.foldl_cons, ih (hSteady.tail hFirst) hTail hRest hOrderedTail]

theorem Steady.perm {columns columns' : List CharRange} {line : Text} (h : Steady columns line)
    (hPerm : columns.Perm columns') : Steady columns' line :=
  fun before c d behind hArranged => h before c d behind (hArranged.trans hPerm.symm)

/-- Columns give the same line in every order exactly if no order is seen. -/
theorem markColumns_perm_iff {columns : List CharRange} {line : Text} :
    (∀ columns', columns'.Perm columns → markColumns line columns' = markColumns line columns) ↔
      Steady columns line := by
  constructor
  · intro h before c d behind hPerm hOrdered hStart hEnd
    have hPerm' : (before ++ d :: c :: behind).Perm columns :=
      ((List.Perm.swap c d behind).append_left before).trans hPerm
    have hSame := (h _ hPerm).trans (h _ hPerm').symm
    rw [markColumns_of_isOrdered hOrdered,
      markColumns_of_isOrdered (isOrdered_swap hStart hOrdered), List.foldl_append,
      List.foldl_append, List.foldl_cons, List.foldl_cons, List.foldl_cons,
      List.foldl_cons] at hSame
    refine (markSpan_swap_iff hStart hEnd).mp (foldl_markSpan_injective ?_ hSame)
    rw [markSpan_length, markSpan_length, markSpan_length, markSpan_length]
  · intro hSteady columns' hPerm
    have hArranged : (inOrder columns).Perm (inOrder columns') :=
      (inOrder_perm columns).trans (hPerm.symm.trans (inOrder_perm columns').symm)
    have hSteady' : Steady (inOrder columns) line := hSteady.perm (inOrder_perm columns).symm
    rw [markColumns_eq, markColumns_eq, foldl_of_steady hSteady' hArranged
      (pairwise_inOrder columns) (pairwise_inOrder columns')]

/-- The order of two columns that begin together and end apart is seen in a line without marks,
unless both end behind it. -/
theorem steady_pair_iff {c d : CharRange} {line : Text} (hStart : c.first = d.first)
    (hEnd : c.last < d.last) (hMarks : '\x60' ∉ line) :
    Steady [c, d] line ↔ line.length < c.last := by
  constructor
  · intro hSteady
    have hOrdered : IsOrdered [c, d] := by
      simp [IsOrdered, hStart]
    rcases hSteady [] c d [] (List.Perm.refl _) hOrdered hStart hEnd with hBehind | ⟨hMark, -⟩
    · exact hBehind
    · exact absurd (List.mem_of_getElem? hMark) hMarks
  · intro hBehind before x y behind hPerm _ _ hShort
    have hLength := hPerm.length_eq
    simp only [List.length_append, List.length_cons, List.length_nil] at hLength
    obtain rfl : before = [] := List.length_eq_zero_iff.mp (by omega)
    have hX : x = c ∨ x = d := by simpa using hPerm.subset (a := x) (by simp)
    have hY : y = c ∨ y = d := by simpa using hPerm.subset (a := y) (by simp)
    obtain rfl : x = c := by
      rcases hX with rfl | rfl
      · rfl
      · rcases hY with rfl | rfl <;> omega
    exact .inl hBehind

/-! ## Highlights of a line -/

variable {h : Highlights} {items : List Item} {line : Text} {n : Int}

theorem columnsOf_perm (hItems : items.Perm h.items) (n : Int) :
    ((⟨items, h.mode⟩ : Highlights).columnsOf n).Perm (h.columnsOf n) := hItems.filterMap _

theorem marks_perm (hItems : items.Perm h.items) (n : Int) :
    (⟨items, h.mode⟩ : Highlights).marks n = h.marks n := hItems.any_eq

theorem columnsOf_perm_eq_nil_iff (hItems : items.Perm h.items) (n : Int) :
    (⟨items, h.mode⟩ : Highlights).columnsOf n = [] ↔ h.columnsOf n = [] := by
  rw [← List.length_eq_zero_iff, (columnsOf_perm hItems n).length_eq, List.length_eq_zero_iff]

/-- Whether an item names columns of the line. -/
def namesColumns (n : Int) : Item → Bool
  | .columns c => n == c.line
  | _ => false

theorem map_columnsOf (h : Highlights) (n : Int) :
    (h.columnsOf n).map Item.columns = h.items.filter (namesColumns n) := by
  obtain ⟨items, mode⟩ := h
  induction items with
  | nil => rfl
  | cons item rest ih =>
    unfold columnsOf at ih ⊢
    cases item with
    | line item => exact ih
    | range item => exact ih
    | columns c =>
      cases hLine : n == (c.line : Int) with
      | false =>
        rw [List.filterMap_cons_none (by simp only [hLine, Bool.false_eq_true, if_false]), ih,
          List.filter_cons_of_neg (by simp [namesColumns, hLine])]
      | true =>
        rw [List.filterMap_cons_some (b := c) (by simp only [hLine, if_true]), List.map_cons, ih,
          List.filter_cons_of_pos (by simp [namesColumns, hLine])]

/-- Every order of the columns of a line is that of some order of the items. -/
theorem exists_items_of_columns {columns : List CharRange} (hPerm : columns.Perm (h.columnsOf n)) :
    ∃ items, items.Perm h.items ∧ (⟨items, h.mode⟩ : Highlights).columnsOf n = columns := by
  have hFront : (columns.map Item.columns).Perm (h.items.filter (namesColumns n)) :=
    map_columnsOf h n ▸ hPerm.map Item.columns
  refine ⟨columns.map Item.columns ++ h.items.filter (! namesColumns n ·), ?_, ?_⟩
  · exact (hFront.append_right _).trans (List.filter_append_perm _ _)
  · have hFilter : (columns.map Item.columns ++
        h.items.filter (! namesColumns n ·)).filter (namesColumns n) = columns.map .columns := by
      have hNamed : (columns.map Item.columns).filter (namesColumns n) = columns.map .columns :=
        List.filter_eq_self.mpr fun item hItem =>
          (List.mem_filter.mp (hFront.subset hItem)).2
      rw [List.filter_append, hNamed, List.filter_filter]
      simp
    have hInjective : Function.Injective Item.columns := fun _ _ hEq => Item.columns.inj hEq
    exact hInjective.list_map ((map_columnsOf _ n).trans hFilter)

theorem apply_perm_of_nil (hItems : items.Perm h.items) (hColumns : h.columnsOf n = [])
    (line : Text) : (⟨items, h.mode⟩ : Highlights).apply line n = h.apply line n := by
  have hNone := (columnsOf_perm_eq_nil_iff hItems n).mpr hColumns
  simp only [apply, hNone, hColumns, marks_perm hItems]

/-- Highlights mark a line alike in every order exactly if no order of its columns is seen. -/
theorem apply_perm_iff :
    (∀ items, items.Perm h.items →
      (⟨items, h.mode⟩ : Highlights).apply line n = h.apply line n) ↔
      Steady (h.columnsOf n) line := by
  rw [← markColumns_perm_iff]
  by_cases hColumns : h.columnsOf n = []
  · refine iff_of_true (fun items hItems => apply_perm_of_nil hItems hColumns line) ?_
    intro columns hPerm
    rw [hColumns] at hPerm ⊢
    rw [hPerm.eq_nil]
  · constructor
    · intro hSame columns hPerm
      obtain ⟨items, hItems, rfl⟩ := exists_items_of_columns hPerm
      have hSome := mt (columnsOf_perm_eq_nil_iff hItems n).mp hColumns
      have hApply := hSame items hItems
      rw [apply_of_columns hSome, apply_of_columns hColumns] at hApply
      exact congrArg Prod.snd hApply
    · intro hSame items hItems
      have hSome := mt (columnsOf_perm_eq_nil_iff hItems n).mp hColumns
      rw [apply_of_columns hSome, apply_of_columns hColumns, hSame _ (columnsOf_perm hItems n)]

/-- Columns that begin together are marked in the order of the selector. -/
theorem apply_pair {c d : CharRange} (line : Text) (hC : n = c.line) (hD : n = d.line)
    (hStart : c.first = d.first) :
    apply ⟨[.columns c, .columns d], .absolute⟩ line n = ([], markSpan (markSpan line c) d) := by
  have hColumns : columnsOf ⟨[.columns c, .columns d], .absolute⟩ n = [c, d] := by
    have hNamed (e : CharRange) (hLine : n = e.line) : (n == (e.line : Int)) = true :=
      beq_iff_eq.mpr hLine
    simp only [columnsOf, List.filterMap_cons, List.filterMap_nil, hNamed c hC, hNamed d hD,
      if_true]
  have hOrdered : IsOrdered [c, d] := by
    simp [IsOrdered, hStart]
  rw [apply_of_columns (by simp [hColumns]), hColumns, markColumns_of_isOrdered hOrdered]
  rfl

theorem markColumns_length (line : Text) (columns : List CharRange) :
    (markColumns line columns).length = line.length + 2 * columns.length := by
  have hFold (ordered : List CharRange) (t : Text) :
      (ordered.foldl markSpan t).length = t.length + 2 * ordered.length := by
    induction ordered generalizing t with
    | nil => rfl
    | cons c rest ih =>
      rw [List.foldl_cons, ih, markSpan_length, List.length_cons]
      omega
  rw [markColumns_eq, hFold, (inOrder_perm columns).length_eq]

theorem apply_perm_length (hItems : items.Perm h.items) (line : Text) (n : Int) :
    ((⟨items, h.mode⟩ : Highlights).apply line n).2.length = (h.apply line n).2.length := by
  by_cases hColumns : h.columnsOf n = []
  · rw [apply_perm_of_nil hItems hColumns]
  · have hSome := mt (columnsOf_perm_eq_nil_iff hItems n).mp hColumns
    rw [apply_of_columns hSome, apply_of_columns hColumns, markColumns_length, markColumns_length,
      (columnsOf_perm hItems n).length_eq]

end Highlights

end Excerpt
