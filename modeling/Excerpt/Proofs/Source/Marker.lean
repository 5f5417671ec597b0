import Excerpt.Proofs.Source.Scan

/-!
# Where markers stand

A marker stands in a line if the line has its text somewhere. The first marker with an identifier is
the one that stands furthest to the left in the first line in which one stands, and that is the one
that is found.

* `Marker.mem_occurrences_iff`: the markers of a line are those that stand in it.
* `Marker.find?_eq_some_iff`, `Marker.find?_eq_none_iff`: what is found, and when nothing is.
-/

namespace Excerpt.Marker

/-! ## Markers in a line -/

/-- Whether a line has a marker with the identifier. -/
def Names (id line : Text) : Prop := ∃ m ∈ occurrences line, Text.trim m.id = id

variable {m : Marker} {id line : Text}

/-- Whether the marker stands in the line behind the given text. -/
def StandsIn (m : Marker) (before line : Text) : Prop := m.IsWritable ∧ before ++ m.text <+: line

theorem standsIn_nil_iff : m.StandsIn [] line ↔ atStart? line = some m := atStart?_eq_some_iff.symm

theorem StandsIn.cons {before : Text} (h : m.StandsIn before line) (c : Char) :
    m.StandsIn (c :: before) (c :: line) :=
  ⟨h.1, List.cons_prefix_cons.mpr ⟨rfl, h.2⟩⟩

theorem standsIn_cons_iff {c : Char} {before rest : Text} :
    m.StandsIn before (c :: rest) ↔ before = [] ∧ atStart? (c :: rest) = some m ∨
      ∃ before', before = c :: before' ∧ m.StandsIn before' rest := by
  cases before with
  | nil => simp [standsIn_nil_iff]
  | cons d before =>
    constructor
    · rintro ⟨hWritable, hPrefix⟩
      obtain ⟨rfl, hBehind⟩ := List.cons_prefix_cons.mp hPrefix
      exact .inr ⟨before, rfl, hWritable, hBehind⟩
    · rintro (⟨⟨⟩, -⟩ | ⟨before', hBefore, hBehind⟩)
      cases hBefore
      exact hBehind.cons c

theorem not_standsIn_empty (before : Text) : ¬ m.StandsIn before [] := by
  rintro ⟨-, h⟩
  have hEmpty := List.prefix_nil.mp h
  simp [text, opening] at hEmpty

theorem mem_occurrences_iff : m ∈ occurrences line ↔ ∃ before, m.StandsIn before line := by
  induction line with
  | nil =>
    refine iff_of_false List.not_mem_nil ?_
    rintro ⟨before, h⟩
    exact not_standsIn_empty before h
  | cons c rest ih =>
    rw [occurrences_cons, List.mem_append, Option.mem_toList, ih]
    constructor
    · rintro (h | ⟨before, h⟩)
      · exact ⟨[], standsIn_nil_iff.mpr h⟩
      · exact ⟨c :: before, h.cons c⟩
    · rintro ⟨before, h⟩
      rcases standsIn_cons_iff.mp h with ⟨-, hStart⟩ | ⟨before', -, hRest⟩
      · exact .inl hStart
      · exact .inr ⟨before', hRest⟩

/-- Whether the marker is the first one in the line with the identifier. -/
def IsFirstIn (id line : Text) (m : Marker) : Prop :=
  Text.trim m.id = id ∧ ∃ before, m.StandsIn before line ∧
    ∀ m' before', StandsIn m' before' line → Text.trim m'.id = id → before.length ≤ before'.length

theorem isFirstIn_cons_iff {c : Char} {rest : Text} :
    IsFirstIn id (c :: rest) m ↔ Text.trim m.id = id ∧ atStart? (c :: rest) = some m ∨
      (∀ m', atStart? (c :: rest) = some m' → Text.trim m'.id ≠ id) ∧ IsFirstIn id rest m := by
  constructor
  · rintro ⟨hId, before, hStands, hLeast⟩
    rcases standsIn_cons_iff.mp hStands with ⟨-, hStart⟩ | ⟨before', rfl, hRest⟩
    · exact .inl ⟨hId, hStart⟩
    · refine .inr ⟨fun m' hStart hSame => ?_, hId, before', hRest, fun m' other hOther hSame => ?_⟩
      · have hFront := hLeast m' [] (standsIn_nil_iff.mpr hStart) hSame
        simp at hFront
      · exact Nat.le_of_succ_le_succ (hLeast m' (c :: other) (hOther.cons c) hSame)
  · rintro (⟨hId, hStart⟩ | ⟨hNone, hId, before, hStands, hLeast⟩)
    · exact ⟨hId, [], standsIn_nil_iff.mpr hStart, fun _ _ _ _ => Nat.zero_le _⟩
    · refine ⟨hId, c :: before, hStands.cons c, ?_⟩
      intro m' other hOther hSame
      rcases standsIn_cons_iff.mp hOther with ⟨-, hStart⟩ | ⟨other', rfl, hRest⟩
      · exact absurd hSame (hNone m' hStart)
      · exact Nat.succ_le_succ (hLeast m' other' hRest hSame)

theorem find?_occurrences_eq_some_iff :
    (occurrences line).find? (fun m => Text.trim m.id == id) = some m ↔ IsFirstIn id line m := by
  induction line with
  | nil =>
    refine iff_of_false nofun ?_
    rintro ⟨-, before, h, -⟩
    exact not_standsIn_empty before h
  | cons c rest ih =>
    rw [isFirstIn_cons_iff, ← ih, occurrences_cons]
    cases hStart : atStart? (c :: rest) with
    | none => simp
    | some front =>
      rw [Option.toList_some, List.singleton_append]
      by_cases hId : Text.trim front.id = id
      · rw [List.find?_cons_of_pos (by simpa using hId)]
        constructor
        · intro h
          cases h
          exact .inl ⟨hId, rfl⟩
        · rintro (⟨-, h⟩ | ⟨hNone, -⟩)
          · exact h
          · exact absurd hId (hNone front rfl)
      · rw [List.find?_cons_of_neg (by simpa using hId)]
        constructor
        · intro h
          refine .inr ⟨fun m' hFront => ?_, h⟩
          cases hFront
          exact hId
        · rintro (⟨hSame, h⟩ | ⟨-, h⟩)
          · cases h
            exact absurd hSame hId
          · exact h

theorem find?_occurrences_eq_none_iff :
    (occurrences line).find? (fun m => Text.trim m.id == id) = none ↔ ¬ Names id line := by
  simp [Names]

theorem IsFirstIn.names (h : IsFirstIn id line m) : Names id line := by
  obtain ⟨hId, before, hStands, -⟩ := h
  exact ⟨m, mem_occurrences_iff.mpr ⟨before, hStands⟩, hId⟩

/-! ## Markers in a file -/

/-- Whether the marker is the first one with the identifier, and stands on line `n`, if the lines
are numbered from `start`. -/
def IsFirst (id : Text) (start : Nat) (lines : List Text) (n : Nat) (m : Marker) : Prop :=
  ∃ above line below, lines = above ++ line :: below ∧ n = start + above.length ∧
    IsFirstIn id line m ∧ ∀ other ∈ above, ¬ Names id other

variable {start n : Nat} {lines : List Text}

theorem isFirst_cons_iff {rest : List Text} : IsFirst id start (line :: rest) n m ↔
    n = start ∧ IsFirstIn id line m ∨ ¬ Names id line ∧ IsFirst id (start + 1) rest n m := by
  constructor
  · rintro ⟨above, line', below, hLines, rfl, hFirst, hAbove⟩
    cases above with
    | nil =>
      cases hLines
      exact .inl ⟨rfl, hFirst⟩
    | cons other above =>
      cases hLines
      obtain ⟨hNone, hAbove⟩ := List.forall_mem_cons.mp hAbove
      refine .inr ⟨hNone, above, line', below, rfl, ?_, hFirst, hAbove⟩
      rw [List.length_cons]
      omega
  · rintro (⟨rfl, hFirst⟩ | ⟨hNone, above, line', below, rfl, rfl, hFirst, hAbove⟩)
    · exact ⟨[], line, rest, rfl, rfl, hFirst, by simp⟩
    · refine ⟨line :: above, line', below, rfl, ?_, hFirst, ?_⟩
      · rw [List.length_cons]
        omega
      · exact List.forall_mem_cons.mpr ⟨hNone, hAbove⟩

theorem find?_eq_some_iff : find? id start lines = some (n, m) ↔ IsFirst id start lines n m := by
  induction lines generalizing start with
  | nil =>
    refine iff_of_false nofun ?_
    rintro ⟨above, line, below, h, -⟩
    simp at h
  | cons line rest ih =>
    unfold find?
    rw [isFirst_cons_iff, scan_eq_occurrences]
    cases hLine : (occurrences line).find? (fun m => Text.trim m.id == id) with
    | some front =>
      have hFront := (find?_occurrences_eq_some_iff.mp hLine).names
      rw [or_iff_left fun h => h.1 hFront, ← find?_occurrences_eq_some_iff, hLine]
      simp [eq_comm]
    | none =>
      have hNone := find?_occurrences_eq_none_iff.mp hLine
      rw [or_iff_right fun h => hNone h.2.names, and_iff_right hNone]
      exact ih

theorem find?_eq_none_iff : find? id start lines = none ↔ ∀ line ∈ lines, ¬ Names id line := by
  induction lines generalizing start with
  | nil => exact iff_of_true rfl (by simp)
  | cons line rest ih =>
    have hRest : find? id (start + 1) rest = none ↔ _ := ih
    unfold find?
    rw [scan_eq_occurrences, List.forall_mem_cons, ← hRest, ← find?_occurrences_eq_none_iff]
    cases (occurrences line).find? (fun m => Text.trim m.id == id) <;> simp

theorem find?_append {above : List Text} (h : ∀ line ∈ above, ¬ Names id line) (n : Nat)
    (lines : List Text) : find? id n (above ++ lines) = find? id (n + above.length) lines := by
  induction above generalizing n with
  | nil => rfl
  | cons line rest ih =>
    have hLine := find?_occurrences_eq_none_iff.mpr (h line List.mem_cons_self)
    have hRest := ih (fun l hl => h l (List.mem_cons_of_mem _ hl)) (n + 1)
    rw [List.cons_append, find?, scan_eq_occurrences, hLine]
    dsimp only
    rw [hRest, List.length_cons, Nat.add_assoc, Nat.add_comm 1]

theorem find?_of_atStart? (h : atStart? line = some m) (n : Nat)
    (rest : List Text) : find? (Text.trim m.id) n (line :: rest) = some (n, m) := by
  cases line with
  | nil => cases h
  | cons c more =>
    unfold find?
    rw [scan_eq_occurrences, occurrences_cons, h]
    simp

end Excerpt.Marker
