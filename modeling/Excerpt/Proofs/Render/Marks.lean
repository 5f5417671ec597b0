import Excerpt.Proofs.Render.Refusal
import Mathlib.Algebra.BigOperators.Group.Finset.Basic
import Mathlib.Algebra.BigOperators.Group.Finset.Piecewise
import Mathlib.Data.List.Basic

/-!
# Where marks stand

The marks of highlighted columns are put into a line one by one. A line with marks is the line
together with the number of marks in each gap, which is the place before a character or the end. A
mark that is put in at a position of the line with marks adds one to one gap, and if there are no
marks before that position, to the gap of the position. Columns are taken from the right to the
left, so if no two of them overlap this holds for each of them.

* `markAt_append`, `markAt_cons`: a mark behind the first part of a text.
* `markAt_withMarks`: a mark that is put in stands in one gap.
* `markColumns_eq_withMarks`, `sum_marksOf`: two marks for each of the columns, and the line.
* `marksOf_of_apart`: columns that do not overlap are marked where they begin and end.
* `apply_withMarks`: all this for the highlights of a line.
-/

namespace Excerpt

theorem insertAt_natCast (t : Text) (position : Nat) (inserted : Text) :
    insertAt t position inserted = t.take position ++ inserted ++ t.drop position := by
  unfold insertAt
  split
  · rename_i hLong
    have hLength : t.length ≤ position := by omega
    rw [List.take_of_length_le hLength, List.drop_of_length_le hLength, List.append_nil]
  · have hNat : ¬ ((position : Nat) : Int) < 0 := by omega
    rw [if_neg hNat, Int.toNat_natCast]

namespace Highlights

/-! ## One mark -/

/-- The text with a mark at the position, at the end if that is behind it. -/
def markAt (t : Text) (position : Nat) : Text := t.take position ++ '\x60' :: t.drop position

theorem insertAt_spanMark (t : Text) (position : Nat) :
    insertAt t position spanMark = markAt t position := by
  rw [insertAt_natCast, spanMark, markAt, List.append_assoc, List.singleton_append]

theorem markAt_nil (position : Nat) : markAt [] position = ['\x60'] := by
  rw [markAt, List.take_nil, List.drop_nil, List.nil_append]

theorem markAt_zero (t : Text) : markAt t 0 = '\x60' :: t := rfl

theorem markAt_cons (x : Char) (rest : Text) (position : Nat) :
    markAt (x :: rest) (position + 1) = x :: markAt rest position := rfl

theorem markAt_append (front back : Text) (position : Nat) :
    markAt (front ++ back) (front.length + position) = front ++ markAt back position := by
  rw [markAt, markAt, List.take_length_add_append, List.drop_length_add_append,
    List.append_assoc]

theorem markAt_append_of_le {front : Text} {position : Nat} (h : position ≤ front.length)
    (back : Text) : markAt (front ++ back) position = markAt front position ++ back := by
  rw [markAt, markAt, List.take_append_of_le_length h, List.drop_append_of_le_length h,
    List.append_assoc, List.cons_append]

theorem markAt_replicate (k position : Nat) :
    markAt (List.replicate k '\x60') position = List.replicate (k + 1) '\x60' := by
  induction k generalizing position with
  | zero => exact markAt_nil position
  | succ k ih =>
    cases position with
    | zero => rfl
    | succ position =>
      rw [List.replicate_succ, markAt_cons, ih]
      rfl

/-! ## Gaps -/

/-- One mark more in a gap. -/
def addMark (count : Nat → Nat) (gap : Nat) : Nat → Nat :=
  fun g => count g + if g = gap then 1 else 0

/-- The line with as many marks in each gap as are counted for it. -/
def withMarks (count : Nat → Nat) : Text → Text
  | [] => List.replicate (count 0) '\x60'
  | c :: rest => List.replicate (count 0) '\x60' ++ c :: withMarks (fun g => count (g + 1)) rest

/-- The gap of a line with marks in which a position lies. -/
def gapAt (count : Nat → Nat) : Text → Nat → Nat
  | [], _ => 0
  | _ :: rest, position =>
    if position ≤ count 0 then 0
    else gapAt (fun g => count (g + 1)) rest (position - count 0 - 1) + 1

variable {count : Nat → Nat} {line : Text}

theorem withMarks_zero (line : Text) : withMarks (fun _ => 0) line = line := by
  induction line with
  | nil => rfl
  | cons c rest ih => simp only [withMarks, List.replicate_zero, List.nil_append, ih]

theorem withMarks_congr {count' : Nat → Nat} (h : ∀ g ≤ line.length, count g = count' g) :
    withMarks count line = withMarks count' line := by
  induction line generalizing count count' with
  | nil => simp only [withMarks, h 0 (Nat.le_refl 0)]
  | cons c rest ih =>
    have hRest : withMarks (fun g => count (g + 1)) rest =
        withMarks (fun g => count' (g + 1)) rest :=
      ih fun g hg => h (g + 1) (Nat.succ_le_succ hg)
    simp only [withMarks, h 0 (Nat.zero_le _), hRest]

theorem gapAt_le (count : Nat → Nat) (line : Text) (position : Nat) :
    gapAt count line position ≤ line.length := by
  induction line generalizing count position with
  | nil => exact Nat.le_refl 0
  | cons c rest ih =>
    unfold gapAt
    split
    · exact Nat.zero_le _
    · exact Nat.succ_le_succ (ih _ _)

/-- A position with no marks before it is that of its gap. -/
theorem gapAt_of_bare {position : Nat} (h : ∀ g < min position line.length, count g = 0) :
    gapAt count line position = min position line.length := by
  induction line generalizing count position with
  | nil => simp [gapAt]
  | cons c rest ih =>
    unfold gapAt
    cases position with
    | zero => simp
    | succ p =>
      have hFirst : count 0 = 0 := h 0 (by simp)
      have hRest : ∀ g < min p rest.length, count (g + 1) = 0 := by
        intro g hg
        refine h (g + 1) ?_
        rw [List.length_cons]
        omega
      have hNot : ¬ p + 1 ≤ count 0 := by omega
      have hBehind : p + 1 - count 0 - 1 = p := by omega
      rw [if_neg hNot, hBehind, ih hRest, List.length_cons]
      omega

theorem markAt_withMarks (count : Nat → Nat) (line : Text) (position : Nat) :
    markAt (withMarks count line) position =
      withMarks (addMark count (gapAt count line position)) line := by
  induction line generalizing count position with
  | nil =>
    simp only [withMarks, gapAt, addMark, if_true]
    exact markAt_replicate _ _
  | cons c rest ih =>
    by_cases hFirst : position ≤ count 0
    · have hLength : position ≤ (List.replicate (count 0) '\x60').length := by
        rwa [List.length_replicate]
      have hGap : gapAt count (c :: rest) position = 0 := if_pos hFirst
      have hZero : addMark count 0 0 = count 0 + 1 := rfl
      have hRest : withMarks (fun g => addMark count 0 (g + 1)) rest =
          withMarks (fun g => count (g + 1)) rest := withMarks_congr fun g _ => rfl
      rw [hGap, withMarks, withMarks, markAt_append_of_le hLength, markAt_replicate, hZero, hRest]
    · obtain ⟨q, rfl⟩ : ∃ q, position = count 0 + (q + 1) :=
        ⟨position - count 0 - 1, by omega⟩
      have hGap : gapAt count (c :: rest) (count 0 + (q + 1)) =
          gapAt (fun g => count (g + 1)) rest q + 1 := by
        have hBehind : count 0 + (q + 1) - count 0 - 1 = q := by omega
        rw [gapAt, if_neg hFirst, hBehind]
      have hRest : (fun g => addMark count (gapAt (fun g => count (g + 1)) rest q + 1) (g + 1)) =
          addMark (fun g => count (g + 1)) (gapAt (fun g => count (g + 1)) rest q) := by
        funext g
        simp [addMark]
      have hZero : addMark count (gapAt (fun g => count (g + 1)) rest q + 1) 0 = count 0 := rfl
      have hMark := markAt_append (List.replicate (count 0) '\x60')
        (c :: withMarks (fun g => count (g + 1)) rest) (q + 1)
      rw [List.length_replicate, markAt_cons, ih] at hMark
      rw [hGap, withMarks, hMark, withMarks, hZero, hRest]

/-! ## Columns -/

/-- Puts in the two marks of columns, the second first. -/
def markSpan (line : Text) (c : CharRange) : Text :=
  insertAt (insertAt line c.last spanMark) ((c.first - 1 : Nat) : Int) spanMark

theorem markSpan_eq (line : Text) (c : CharRange) :
    markSpan line c = markAt (markAt line c.last) (c.first - 1) := by
  rw [markSpan, insertAt_spanMark, insertAt_spanMark]

/-- The columns in the order in which they are marked. -/
def inOrder (columns : List CharRange) : List CharRange :=
  columns.mergeSort fun a b => b.first ≤ a.first

theorem markColumns_eq (line : Text) (columns : List CharRange) :
    markColumns line columns = (inOrder columns).foldl markSpan line := rfl

theorem inOrder_perm (columns : List CharRange) : (inOrder columns).Perm columns :=
  List.mergeSort_perm _ _

theorem pairwise_inOrder (columns : List CharRange) :
    (inOrder columns).Pairwise fun a b => b.first ≤ a.first := by
  have hTrans : ∀ a b c : CharRange, decide (b.first ≤ a.first) = true →
      decide (c.first ≤ b.first) = true → decide (c.first ≤ a.first) = true := by
    intro a b c hab hbc
    simp only [decide_eq_true_eq] at hab hbc ⊢
    omega
  have hTotal : ∀ a b : CharRange,
      (decide (b.first ≤ a.first) || decide (a.first ≤ b.first)) = true := by
    intro a b
    simp only [Bool.or_eq_true, decide_eq_true_eq]
    omega
  exact (List.pairwise_mergeSort hTrans hTotal columns).imp of_decide_eq_true

/-! ## All marks -/

/-- The gaps of a line with marks behind which the marks of columns are counted too. -/
def spanMarks (line : Text) (count : Nat → Nat) (c : CharRange) : Nat → Nat :=
  let behind := addMark count (gapAt count line c.last)
  addMark behind (gapAt behind line (c.first - 1))

theorem markSpan_withMarks (line : Text) (count : Nat → Nat) (c : CharRange) :
    markSpan (withMarks count line) c = withMarks (spanMarks line count c) line := by
  rw [markSpan_eq, markAt_withMarks, markAt_withMarks]
  rfl

theorem foldl_markSpan (line : Text) (count : Nat → Nat) (columns : List CharRange) :
    columns.foldl markSpan (withMarks count line) =
      withMarks (columns.foldl (spanMarks line) count) line := by
  induction columns generalizing count with
  | nil => rfl
  | cons c rest ih => rw [List.foldl_cons, List.foldl_cons, markSpan_withMarks, ih]

/-- The number of marks in each gap of a line, for columns in any order. -/
def marksOf (line : Text) (columns : List CharRange) : Nat → Nat :=
  (inOrder columns).foldl (spanMarks line) fun _ => 0

theorem markColumns_eq_withMarks (line : Text) (columns : List CharRange) :
    markColumns line columns = withMarks (marksOf line columns) line := by
  have hFold := foldl_markSpan line (fun _ => 0) (inOrder columns)
  rwa [withMarks_zero] at hFold

open Finset in
theorem sum_addMark (count : Nat → Nat) {n gap : Nat} (h : gap ≤ n) :
    ∑ g ∈ range (n + 1), addMark count gap g = ∑ g ∈ range (n + 1), count g + 1 := by
  have hGap : gap ∈ range (n + 1) := mem_range.mpr (Nat.lt_succ_of_le h)
  simp only [addMark, sum_add_distrib, Finset.sum_ite_eq', if_pos hGap]

open Finset in
theorem sum_foldl_spanMarks (line : Text) (count : Nat → Nat) (columns : List CharRange) :
    ∑ g ∈ range (line.length + 1), columns.foldl (spanMarks line) count g =
      ∑ g ∈ range (line.length + 1), count g + 2 * columns.length := by
  induction columns generalizing count with
  | nil => rfl
  | cons c rest ih =>
    rw [List.foldl_cons, ih, spanMarks, sum_addMark _ (gapAt_le _ _ _),
      sum_addMark _ (gapAt_le _ _ _), List.length_cons]
    omega

open Finset in
/-- There are two marks for each of the columns. -/
theorem sum_marksOf (line : Text) (columns : List CharRange) :
    ∑ g ∈ range (line.length + 1), marksOf line columns g = 2 * columns.length := by
  have hSum := sum_foldl_spanMarks line (fun _ => 0) (inOrder columns)
  rw [sum_const_zero, Nat.zero_add, (inOrder_perm columns).length_eq] at hSum
  exact hSum

/-! ## Columns that do not overlap -/

/-- Whether columns end before the others begin. -/
def Apart (c d : CharRange) : Prop := c.last < d.first ∨ d.last < c.first

/-- The number of marks that belong into a gap of a line with the given length: one for each of the
columns that begin behind it, and one for each that end before it. -/
def boundsAt (length : Nat) (columns : List CharRange) (gap : Nat) : Nat :=
  columns.countP (fun c => min (c.first - 1) length = gap) +
    columns.countP fun c => min c.last length = gap

theorem boundsAt_perm {columns columns' : List CharRange} (h : columns.Perm columns')
    (length : Nat) : boundsAt length columns = boundsAt length columns' := by
  funext gap
  rw [boundsAt, boundsAt, h.countP_eq, h.countP_eq]

/-- Columns with no marks before their end are marked where they begin and end. -/
theorem spanMarks_of_bare {count : Nat → Nat} {line : Text} {c : CharRange}
    (h : ∀ g < min c.last line.length, count g = 0) (gap : Nat) :
    spanMarks line count c gap = count gap + boundsAt line.length [c] gap := by
  have hOrder := c.first_le_last
  have hEnd : gapAt count line c.last = min c.last line.length := gapAt_of_bare h
  have hStart : gapAt (addMark count (min c.last line.length)) line (c.first - 1) =
      min (c.first - 1) line.length := by
    refine gapAt_of_bare fun g hg => ?_
    have hBefore : g < min c.last line.length := by omega
    simp only [addMark, h g hBefore, if_neg (Nat.ne_of_lt hBefore)]
  simp only [spanMarks, hEnd, hStart, addMark, boundsAt, List.countP_singleton, decide_eq_true_eq,
    eq_comm (a := gap)]
  omega

theorem boundsAt_cons (length : Nat) (c : CharRange) (rest : List CharRange) (gap : Nat) :
    boundsAt length (c :: rest) gap = boundsAt length [c] gap + boundsAt length rest gap := by
  simp only [boundsAt, List.countP_cons, List.countP_nil]
  omega

theorem boundsAt_of_lt {length : Nat} {c : CharRange} {gap : Nat}
    (h : gap < min (c.first - 1) length) : boundsAt length [c] gap = 0 := by
  have hOrder := c.first_le_last
  have hStart : min (c.first - 1) length ≠ gap := by omega
  have hEnd : min c.last length ≠ gap := by omega
  simp [boundsAt, hStart, hEnd]

/-- Columns that are marked from the right to the left and do not overlap are marked where they
begin and end. -/
theorem foldl_spanMarks_of_apart {count : Nat → Nat} {line : Text} {columns : List CharRange}
    (hApart : columns.Pairwise fun a b => b.last < a.first)
    (hBare : ∀ c ∈ columns, ∀ g < min c.last line.length, count g = 0) (gap : Nat) :
    columns.foldl (spanMarks line) count gap = count gap + boundsAt line.length columns gap := by
  induction columns generalizing count with
  | nil => simp [boundsAt]
  | cons c rest ih =>
    obtain ⟨hFirst, hRest⟩ := List.pairwise_cons.mp hApart
    have hMarked := spanMarks_of_bare (hBare c List.mem_cons_self)
    -- the columns that are still to come end before the marks that were just put in
    have hStillBare : ∀ d ∈ rest, ∀ g < min d.last line.length, spanMarks line count c g = 0 := by
      intro d hd g hg
      have hBefore := hFirst d hd
      rw [hMarked, hBare d (List.mem_cons_of_mem c hd) g hg, boundsAt_of_lt (by omega)]
    rw [List.foldl_cons, ih hRest hStillBare, hMarked, boundsAt_cons line.length c rest]
    omega

theorem marksOf_of_apart (line : Text) {columns : List CharRange}
    (h : columns.Pairwise Apart) : marksOf line columns = boundsAt line.length columns := by
  have hSymm : ∀ {c d : CharRange}, Apart c d → Apart d c := Or.symm
  have hOrdered : (inOrder columns).Pairwise fun a b => b.last < a.first := by
    have hApart := h.perm (inOrder_perm columns).symm hSymm
    refine (hApart.and (pairwise_inOrder columns)).imp ?_
    rintro c d ⟨hc | hd, hOrder⟩
    · have := c.first_le_last
      omega
    · exact hd
  funext gap
  rw [marksOf, foldl_spanMarks_of_apart hOrdered (fun _ _ _ _ => rfl), Nat.zero_add,
    boundsAt_perm (inOrder_perm columns)]

/-! ## Highlights -/

theorem apply_of_columns {h : Highlights} {n : Int} (hColumns : h.columnsOf n ≠ [])
    (line : Text) :
    h.apply line n = ([], markColumns line (h.columnsOf n)) := by
  cases hSome : h.columnsOf n with
  | nil => exact absurd hSome hColumns
  | cons c rest => simp only [apply, hSome]

open Finset in
/-- A line with highlighted columns, or with nothing highlighted, keeps its characters in order and
gets two marks for each of the columns, and nothing else. If no two of the columns overlap, the
marks stand where the columns begin and end in the line as it was, at the end for those behind
it. -/
theorem apply_withMarks (h : Highlights) (line : Text) (n : Int)
    (hSpans : h.columnsOf n ≠ [] ∨ h.marks n = false) :
    (∃ count, h.apply line n = ([], withMarks count line) ∧
      ∑ g ∈ range (line.length + 1), count g = 2 * (h.columnsOf n).length) ∧
    ((h.columnsOf n).Pairwise Apart →
      h.apply line n = ([], withMarks (boundsAt line.length (h.columnsOf n)) line)) := by
  have hApply : h.apply line n = ([], withMarks (marksOf line (h.columnsOf n)) line) := by
    rw [← markColumns_eq_withMarks]
    by_cases hColumns : h.columnsOf n = []
    · have hMarks : h.marks n = false := hSpans.resolve_left fun hSome => hSome hColumns
      rw [apply_unmarked hColumns hMarks, hColumns, markColumns_nil]
    · exact apply_of_columns hColumns line
  refine ⟨⟨_, hApply, sum_marksOf line _⟩, fun hApart => ?_⟩
  rw [hApply, marksOf_of_apart line hApart]

theorem apply_withMarks_scattered :
    ∃ h : Highlights, h.columnsOf 1 ≠ [] ∧ (h.columnsOf 1).Pairwise Apart ∧
      (h.columnsOf 1).map (fun c => (c.first, c.last)) = [(9, 12), (1, 2), (3, 4)] ∧
      h.apply "abcdef".toList 1 = ([], "\x60ab\x60\x60cd\x60ef\x60\x60".toList) := by
  let h : Highlights := ⟨[.columns ⟨1, 9, 12, by decide, by decide, by decide⟩,
    .columns ⟨1, 1, 2, by decide, by decide, by decide⟩,
    .columns ⟨1, 3, 4, by decide, by decide, by decide⟩], .absolute⟩
  have hSpans : h.columnsOf 1 ≠ [] := by decide
  have hApart : (h.columnsOf 1).Pairwise Apart := by
    simp [h, columnsOf, Apart]
  refine ⟨h, hSpans, hApart, rfl, ?_⟩
  rw [(apply_withMarks h "abcdef".toList 1 (.inl hSpans)).2 hApart]
  rfl

end Highlights

end Excerpt
