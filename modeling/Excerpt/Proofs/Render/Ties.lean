import Excerpt.Proofs.Render.Marks

/-!
# Columns that begin together

Two columns that begin together are marked one after the other, and the marks of the first move the
place at which the second ends. Both orders give the same line only if the shorter columns end
behind it, or if the mark that is put elsewhere passes no more than marks.

* `markAt_eq_iff`: one mark at two places.
* `markAt_swap_iff`: two marks, one after the other, in both orders.
* `markSpan_swap_iff`: two columns that begin together, in both orders.
-/

namespace Excerpt

namespace Highlights

/-! ## One mark, and two -/

theorem markAt_length (t : Text) (position : Nat) : (markAt t position).length = t.length + 1 := by
  rw [← insertAt_spanMark, insertAt_length]
  rfl

theorem markAt_injective {t u : Text} {position : Nat} (hLength : t.length = u.length)
    (h : markAt t position = markAt u position) : t = u := by
  have hTakes : (t.take position).length = (u.take position).length := by
    rw [List.length_take, List.length_take, hLength]
  obtain ⟨hTake, hRest⟩ := List.append_inj h hTakes
  have hDrop : t.drop position = u.drop position := List.tail_eq_of_cons_eq hRest
  rw [← List.take_append_drop position t, hTake, hDrop, List.take_append_drop]

/-- It cannot be seen that a mark is put in further to the right if it only passes marks. -/
theorem markAt_eq_iff {t : Text} {i j : Nat} (h : i ≤ j) :
    markAt t i = markAt t j ↔ ∀ x ∈ (t.take j).drop i, x = '\x60' := by
  induction t generalizing i j with
  | nil => simp [markAt]
  | cons y rest ih =>
    cases j with
    | zero =>
      obtain rfl : i = 0 := Nat.le_zero.mp h
      simp
    | succ j =>
      cases i with
      | zero =>
        have hRest := ih (Nat.zero_le j)
        rw [markAt_zero, List.drop_zero] at hRest
        rw [markAt_zero, markAt_cons, List.take_succ_cons, List.drop_zero, List.forall_mem_cons,
          ← hRest]
        constructor
        · intro hEq
          obtain ⟨rfl, hTail⟩ := List.cons_eq_cons.mp hEq
          exact ⟨rfl, hTail⟩
        · rintro ⟨rfl, hTail⟩
          rw [hTail]
      | succ i =>
        rw [markAt_cons, markAt_cons, List.cons_inj_right, ih (Nat.le_of_succ_le_succ h)]
        rfl

/-- Two marks, put in one after the other, in both orders. The first moves the place of the
second. -/
theorem markAt_swap_iff {t : Text} {i j : Nat} (h : i < j) :
    markAt (markAt t (i + 1)) j = markAt (markAt t (j + 1)) i ↔
      t.length ≤ i ∨ t[i]? = some '\x60' ∧
        ∀ x ∈ (t.take (j + 1)).drop (max (i + 1) (j - 1)), x = '\x60' := by
  obtain ⟨k, rfl⟩ : ∃ k, j = k + 1 := ⟨j - 1, by omega⟩
  induction t generalizing i k with
  | nil =>
    have hLeft : markAt ['\x60'] (k + 1) = ['\x60', '\x60'] := by
      rw [markAt_cons, markAt_nil]
    have hRight : markAt ['\x60'] i = ['\x60', '\x60'] := by
      cases i with
      | zero => rfl
      | succ i => rw [markAt_cons, markAt_nil]
    rw [markAt_nil, markAt_nil, hLeft, hRight]
    simp
  | cons y rest ih =>
    cases i with
    | zero =>
      -- the second mark passes the first one and what stands between the two places
      have hMove := markAt_eq_iff (t := '\x60' :: rest) (i := k) (j := k + 2) (by omega)
      have hBehind : (∀ x ∈ (('\x60' :: rest).take (k + 2)).drop k, x = '\x60') ↔
          ∀ x ∈ (rest.take (k + 1)).drop (k - 1), x = '\x60' := by
        cases k with
        | zero => simp
        | succ k => simp
      have hMax : max (0 + 1) (k + 1 - 1) = k - 1 + 1 := by omega
      rw [markAt_cons, markAt_zero, markAt_cons, markAt_zero, hMax, List.take_succ_cons,
        List.drop_succ_cons, ← hBehind, ← hMove, markAt_cons]
      constructor
      · intro hEq
        obtain ⟨rfl, hTail⟩ := List.cons_eq_cons.mp hEq
        exact .inr ⟨rfl, hTail⟩
      · intro hSeen
        obtain ⟨hMark, hTail⟩ := hSeen.resolve_left (by simp)
        obtain rfl : y = '\x60' := by simpa using hMark
        rw [hTail, markAt_cons]
    | succ i =>
      obtain ⟨l, rfl⟩ : ∃ l, k = l + 1 := ⟨k - 1, by omega⟩
      have hRest := ih l (Nat.lt_of_succ_lt_succ h)
      have hMax : max (i + 1 + 1) (l + 1 + 1 - 1) = max (i + 1) (l + 1 - 1) + 1 := by omega
      rw [markAt_cons, markAt_cons, markAt_cons, markAt_cons, List.cons_inj_right, hRest, hMax,
        List.take_succ_cons, List.drop_succ_cons, List.length_cons, List.getElem?_cons_succ,
        Nat.succ_le_succ_iff]

/-! ## Two columns that begin together -/

theorem markSpan_length (line : Text) (c : CharRange) :
    (markSpan line c).length = line.length + 2 := by
  rw [markSpan_eq, markAt_length, markAt_length]

theorem markSpan_injective {t u : Text} {c : CharRange} (hLength : t.length = u.length)
    (h : markSpan t c = markSpan u c) : t = u := by
  rw [markSpan_eq, markSpan_eq] at h
  apply markAt_injective hLength
  apply markAt_injective _ h
  rw [markAt_length, markAt_length, hLength]

theorem foldl_markSpan_injective {columns : List CharRange} {t u : Text}
    (hLength : t.length = u.length) (h : columns.foldl markSpan t = columns.foldl markSpan u) :
    t = u := by
  induction columns generalizing t u with
  | nil => exact h
  | cons c rest ih =>
    have hNext : (markSpan t c).length = (markSpan u c).length := by
      rw [markSpan_length, markSpan_length, hLength]
    exact markSpan_injective hLength (ih hNext h)

/-- What comes before columns stays. -/
theorem markSpan_append (front back : Text) (c : CharRange) (h : front.length ≤ c.first - 1) :
    markSpan (front ++ back) c = front ++
      markAt (markAt back (c.last - front.length)) (c.first - 1 - front.length) := by
  have hOrder := c.first_le_last
  have hEnd : c.last = front.length + (c.last - front.length) := by omega
  have hStart : c.first - 1 = front.length + (c.first - 1 - front.length) := by omega
  rw [markSpan_eq, hEnd, markAt_append, hStart, markAt_append]
  simp only [Nat.add_sub_cancel_left]

/-- Columns that begin behind the line put two marks at its end. -/
theorem markSpan_behind (line : Text) (k : Nat) (c : CharRange)
    (h : line.length ≤ c.first - 1) :
    markSpan (line ++ List.replicate k '\x60') c = line ++ List.replicate (k + 2) '\x60' := by
  rw [markSpan_append line _ c h, markAt_replicate, markAt_replicate]

/-- Whether it cannot be seen which of two columns that begin together is marked first: the
shorter ones end behind the line, or a mark stands at their end already and what the longer ones
have more ends with marks. -/
def Unseen (t : Text) (c d : CharRange) : Prop :=
  t.length < c.last ∨ t[c.last - 1]? = some '\x60' ∧
    ∀ x ∈ (t.take d.last).drop (max c.last (d.last - 2)), x = '\x60'

/-- Columns that begin behind the first part of a line put a mark there. -/
theorem markSpan_start (front back : Text) (c : CharRange) (h : front.length + 1 = c.first) :
    markSpan (front ++ back) c = front ++ '\x60' :: markAt back (c.last - front.length) := by
  have hFirst : c.first - 1 - front.length = 0 := by omega
  rw [markSpan_append front back c (by omega), hFirst, markAt_zero]

theorem unseen_append_iff {front back : Text} {c d : CharRange} {i j : Nat}
    (hC : c.last = front.length + (i + 1)) (hD : d.last = front.length + (j + 1)) :
    Unseen (front ++ back) c d ↔ back.length ≤ i ∨ back[i]? = some '\x60' ∧
      ∀ x ∈ (back.take (j + 1)).drop (max (i + 1) (j - 1)), x = '\x60' := by
  have hShort : (front ++ back).length < c.last ↔ back.length ≤ i := by
    rw [List.length_append]
    omega
  have hAt : (front ++ back)[c.last - 1]? = back[i]? := by
    rw [List.getElem?_append_right (by omega)]
    congr 1
    omega
  have hMore : max c.last (d.last - 2) = front.length + max (i + 1) (j - 1) := by omega
  rw [Unseen, hShort, hAt, hMore, hD, List.take_length_add_append, List.drop_length_add_append]

/-- Two columns that begin together give the same line in both orders exactly if the order cannot
be seen. -/
theorem markSpan_swap_iff {line : Text} {c d : CharRange} (hStart : c.first = d.first)
    (hEnd : c.last < d.last) :
    markSpan (markSpan line c) d = markSpan (markSpan line d) c ↔ Unseen line c d := by
  have hFirst := c.one_le_first
  have hLast := c.first_le_last
  by_cases hBehind : line.length ≤ c.first - 1
  · have hMarks (e : CharRange) (he : c.first = e.first) (k : Nat) :
        markSpan (line ++ List.replicate k '\x60') e = line ++ List.replicate (k + 2) '\x60' :=
      markSpan_behind line k e (he ▸ hBehind)
    have hC := hMarks c rfl 0
    have hD := hMarks d hStart 0
    rw [List.replicate_zero, List.append_nil] at hC hD
    rw [hC, hD, hMarks c rfl, hMarks d hStart]
    exact iff_of_true rfl (.inl (by omega))
  · obtain ⟨front, back, rfl, hFront⟩ :
        ∃ front back, line = front ++ back ∧ front.length + 1 = c.first := by
      refine ⟨line.take (c.first - 1), line.drop (c.first - 1), ?_, ?_⟩
      · rw [List.take_append_drop]
      · rw [List.length_take]
        omega
    obtain ⟨i, hI⟩ : ∃ i, c.last - front.length = i + 1 := ⟨c.last - front.length - 1, by omega⟩
    obtain ⟨j, hJ⟩ : ∃ j, d.last - front.length = j + 1 := ⟨d.last - front.length - 1, by omega⟩
    have hSecond (e : CharRange) (k : Nat) (he : front.length + 1 = e.first)
        (hk : e.last - front.length = k + 1) (rest : Text) :
        markSpan (front ++ '\x60' :: rest) e = front ++ '\x60' :: '\x60' :: markAt rest k := by
      rw [markSpan_start front _ e he, hk, markAt_cons]
    rw [markSpan_start front back c hFront, markSpan_start front back d (hFront.trans hStart),
      hSecond d j (hFront.trans hStart) hJ, hSecond c i hFront hI, hI, hJ,
      unseen_append_iff (i := i) (j := j) (by omega) (by omega), ← markAt_swap_iff (by omega)]
    simp only [List.append_cancel_left_eq, List.cons_inj_right]

end Highlights

end Excerpt
