import Excerpt.Proofs.Insertion.Stability
import Excerpt.Proofs.Source.Lines
import Excerpt.Proofs.Text.Utf8

/-!
# The first marker of a file

The block with an identifier is the one that the first marker with it names, by line and then by
column, whatever else stands in the file: the search goes on behind each marker that it meets, but
it meets all that stand in a line.

There is one exception. A marker whose numbers are reversed is refused by a message that names them
as lines of the file, and they may have come to be too large to be written.

* `Marker.comesFirst_iff`: the first marker of the file is the one that is found.
* `Marker.locate_first`: which lines are found, and what is refused.
* `Marker.locate_farMarker`: the exception.
-/

namespace Excerpt.Marker

variable {m m' : Marker}

/-! ## By line and by column -/

/-- The marker stands on the line with the number, behind as many characters. -/
def OccursAt (lines : List Text) (n column : Nat) (m : Marker) : Prop :=
  ∃ above line below before, lines = above ++ line :: below ∧ n = above.length + 1 ∧
    column = before.length ∧ m.StandsIn before line

/-- Of the markers with the identifier, this one comes first, by line and then by column. It stands
on line `n`. -/
def ComesFirst (id : Text) (lines : List Text) (n : Nat) (m : Marker) : Prop :=
  Text.trim m.id = id ∧ ∃ column, OccursAt lines n column m ∧
    ∀ n' column' m', OccursAt lines n' column' m' → Text.trim m'.id = id →
      n < n' ∨ n = n' ∧ column ≤ column'

variable {id : Text} {lines : List Text} {n column : Nat}

theorem names_of_standsIn {before line : Text} (h : m.StandsIn before line)
    (hId : Text.trim m.id = id) : Names id line :=
  ⟨m, mem_occurrences_iff.mpr ⟨before, h⟩, hId⟩

theorem comesFirst_iff : ComesFirst id lines n m ↔ IsFirst id 1 lines n m := by
  constructor
  · rintro ⟨hId, column, ⟨above, line, below, before, rfl, rfl, rfl, hStands⟩, hLeast⟩
    refine ⟨above, line, below, rfl, Nat.add_comm _ 1, ⟨hId, before, hStands, ?_⟩, ?_⟩
    · intro m' before' hOther hSame
      rcases hLeast _ _ m' ⟨above, line, below, before', rfl, rfl, rfl, hOther⟩ hSame with
        hBelow | ⟨-, hColumn⟩
      · omega
      · exact hColumn
    · rintro other hOther ⟨m', hMem, hSame⟩
      obtain ⟨before', hStands'⟩ := mem_occurrences_iff.mp hMem
      obtain ⟨front, back, rfl⟩ := List.append_of_mem hOther
      have hEarlier := hLeast _ _ m'
        ⟨front, other, back ++ line :: below, before', by simp, rfl, rfl, hStands'⟩ hSame
      simp only [List.length_append, List.length_cons] at hEarlier
      omega
  · rintro ⟨above, line, below, rfl, rfl, ⟨hId, before, hStands, hLeast⟩, hAbove⟩
    refine ⟨hId, before.length,
      ⟨above, line, below, before, rfl, Nat.add_comm 1 _, rfl, hStands⟩, ?_⟩
    rintro n' column' m' ⟨above', line', below', before', hLines, rfl, rfl, hOther⟩ hSame
    have hNames := names_of_standsIn hOther hSame
    rcases List.append_eq_append_iff.mp hLines with ⟨between, rfl, hRest⟩ | ⟨between, rfl, hRest⟩
    · cases between with
      | nil =>
        obtain ⟨rfl, -⟩ := List.cons_eq_cons.mp hRest
        refine .inr ⟨?_, hLeast m' before' hOther hSame⟩
        rw [List.append_nil, Nat.add_comm]
      | cons first between =>
        rw [List.length_append, List.length_cons]
        omega
    · cases between with
      | nil =>
        obtain ⟨rfl, -⟩ := List.cons_eq_cons.mp hRest
        refine .inr ⟨?_, hLeast m' before' hOther hSame⟩
        rw [List.append_nil, Nat.add_comm]
      | cons first between =>
        obtain ⟨rfl, -⟩ := List.cons_eq_cons.mp hRest
        exact absurd hNames (hAbove line' (by simp))

theorem exists_comesFirst (h : OccursAt lines n column m) (hId : Text.trim m.id = id) :
    ∃ n m, ComesFirst id lines n m := by
  obtain ⟨above, line, below, before, rfl, -, -, hStands⟩ := h
  cases hFind : find? id 1 (above ++ line :: below) with
  | none =>
    exact absurd (names_of_standsIn hStands hId) (find?_eq_none_iff.mp hFind line (by simp))
  | some found => exact ⟨found.1, found.2, comesFirst_iff.mpr (find?_eq_some_iff.mp hFind)⟩

/-! ## Which lines are found -/

variable {disk : Disk} {path : Path} {file : Text}

/-- What the first marker with an identifier makes of a valid file. Reversed numbers that cannot be
written are not refused as what cannot be parsed, as they should be. -/
theorem locate_first (hRead : disk.read path = .ok (Utf8.encode file))
    (hLines : SourceLines file lines) (id : Text) :
    ((∀ n column m, OccursAt lines n column m → Text.trim m.id ≠ id) →
      (locate disk path id).outcome = .error (.blockNotFound id path)) ∧
    ((∃ n column m, OccursAt lines n column m ∧ Text.trim m.id = id) →
      ∃ n m, ComesFirst id lines n m) ∧
    ∀ n m, ComesFirst id lines n m →
      (¬ IsSpanText m.span →
        ∃ fault, (locate disk path id).outcome = .error fault ∧ fault.kind = .parse) ∧
      (∀ first last, m.Spans first last → first ≤ last →
        ∃ range, (locate disk path id).outcome = .ok range ∧ range.first = n + first ∧
          range.last = n + last) ∧
      (∀ first last, m.Spans first last → last < first →
        ∃ fault, (locate disk path id).outcome = .error fault ∧
          fault.kind = if numberBound ≤ n + first then .value else .parse) ∧
      (IsSpanText m.span → (∀ first last, ¬ m.Spans first last) →
        ∃ fault, (locate disk path id).outcome = .error fault ∧ fault.kind = .value) := by
  have hLocate := outcome_locate hRead (Utf8.decode_encode file) id
  rw [hLines.lines_eq] at hLocate
  refine ⟨?_, ?_, ?_⟩
  · intro hNone
    have hFind : find? id 1 lines = none := by
      cases hFind : find? id 1 lines with
      | none => rfl
      | some found =>
        obtain ⟨hId, column, hOccurs, -⟩ := comesFirst_iff.mpr (find?_eq_some_iff.mp hFind)
        exact absurd hId (hNone found.1 column found.2 hOccurs)
    rw [hLocate, hFind]
  · rintro ⟨n, column, m, hOccurs, hId⟩
    exact exists_comesFirst hOccurs hId
  · intro n m hFirst
    have hIs := comesFirst_iff.mp hFirst
    rw [find?_eq_some_iff.mpr hIs] at hLocate
    dsimp only at hLocate
    rw [hLocate]
    refine ⟨?_, ?_, ?_, ?_⟩
    · intro hMalformed
      obtain ⟨-, hSpan⟩ | ⟨hText, -⟩ := readSpan_cases "marker range".toList m.span
      · exact ⟨_, rangeAt_of_error hSpan n, rfl⟩
      · exact absurd hText hMalformed
    · intro first last hSpans hOrder
      exact rangeAt_of_spans hSpans hOrder hIs.one_le
    · intro first last hSpans hOrder
      rw [rangeAt_eq_of_spans hSpans]
      exact LineRange.of_reversed (Nat.add_lt_add_left hOrder n)
    · intro hText hNone
      have hBeyond : m.IsBeyond n := .inl ⟨hText, fun ⟨first, last, h⟩ => hNone first last h⟩
      obtain ⟨fault, hKind, hFault⟩ := (exists_rangeAt_value_iff hIs.one_le).mpr hBeyond
      exact ⟨fault, hFault, hKind⟩

/-- A disk with one file, whose name is a single letter. -/
def diskOf (file : Text) : Disk := (sourcesOf (Utf8.encode file)).disk

theorem read_diskOf (file : Text) :
    (diskOf file).read (Path.ofText ['f']) = .ok (Utf8.encode file) := rfl

/-- A malformed marker with another identifier, the one that decides, and one behind it. -/
def crowdedFile : Text :=
  "code_block(b:x) code_block( a :0-1)\r\ncode_block(a:5-6)".toList

theorem locate_first_crowdedFile :
    ∃ range, (locate (diskOf crowdedFile) (Path.ofText ['f']) ['a']).outcome = .ok range ∧
      range.first = 1 + 0 ∧ range.last = 1 + 1 := by
  have hLines : SourceLines crowdedFile
      ["code_block(b:x) code_block( a :0-1)".toList, "code_block(a:5-6)".toList] :=
    sourceLines_iff.mpr (by decide +kernel)
  have hFind : find? ['a'] 1 ["code_block(b:x) code_block( a :0-1)".toList,
      "code_block(a:5-6)".toList] = some (1, ⟨" a ".toList, "0-1".toList⟩) := by decide +kernel
  obtain ⟨-, -, hFirst⟩ := locate_first (read_diskOf crowdedFile) hLines ['a']
  obtain ⟨-, hOrder, -⟩ := hFirst 1 _ (comesFirst_iff.mpr (find?_eq_some_iff.mp hFind))
  exact hOrder 0 1 ((spans_iff []).mpr (by decide)) (by decide +kernel)

/-- A marker whose numbers are reversed, and the larger of them is the largest that can be
written. -/
def farMarker : Marker := letterMarker (numberBound - 1) 1

/-- On the first line, the marker names a line that cannot be written, and this is what is
refused. -/
theorem locate_farMarker :
    SourceLines farMarker.text [farMarker.text] ∧ ComesFirst ['a'] [farMarker.text] 1 farMarker ∧
      farMarker.Spans (numberBound - 1) 1 ∧ 1 < numberBound - 1 ∧
      ∃ fault, (locate (diskOf farMarker.text) (Path.ofText ['f']) ['a']).outcome = .error fault ∧
        fault.kind = .value ∧ fault.kind ≠ .parse := by
  have hTen := ten_le_numberBound
  have hLines : Text.lines isSourceBreak farMarker.text = [farMarker.text] :=
    Text.lines_of_unbroken (by simp [Marker.text, Marker.opening])
      fun c hc => (mem_letterMarker hc).2
  have hFind : find? ['a'] 1 [farMarker.text] = some (1, farMarker) := find?_letterMarker _ _ []
  have hSpans : farMarker.Spans (numberBound - 1) 1 :=
    spans_letterMarker (by omega) (by omega)
  have hOrder : 1 < numberBound - 1 := by omega
  have hLocate := outcome_locate (read_diskOf farMarker.text) (Utf8.decode_encode _) ['a']
  obtain ⟨fault, hFault, hKind⟩ := LineRange.of_reversed (Nat.add_lt_add_left hOrder 1)
  rw [hLines, hFind] at hLocate
  dsimp only at hLocate
  rw [rangeAt_eq_of_spans hSpans, hFault] at hLocate
  have hValue : fault.kind = .value := hKind.trans (if_pos (by omega))
  refine ⟨sourceLines_iff.mpr hLines, comesFirst_iff.mpr (find?_eq_some_iff.mp hFind), hSpans,
    hOrder, fault, hLocate, hValue, ?_⟩
  rw [hValue]
  decide

end Excerpt.Marker
