import Excerpt.Proofs.Disk
import Excerpt.Proofs.Selector.Reading
import Excerpt.Proofs.Source.Below

/-!
# The bounds of a marker

A marker names the lines between two numbers, counted from its own line. If there are no two numbers
in it, or they are reversed, the marker is at fault; a number with too many digits, in the marker or
in what would be said of it, is a fault of another kind.

* `Marker.spans_iff`: the markers with two given bounds.
* `Marker.rangeAt_of_spans`: the lines of a marker whose bounds are in order.
* `Marker.kind_of_rangeAt`: a marker without lines is at fault or goes too far.
* `Marker.exists_rangeAt_error_iff`, `Marker.exists_rangeAt_value_iff`: the markers of both sorts.
* `Marker.search_locate`: how a block is looked for.
* `Marker.exists_locate_error_iff`, `Marker.exists_locate_value_iff`,
  `Marker.exists_locate_system_iff`: the files in which that fails by one of these or by itself.
-/

namespace Excerpt.Marker

variable {m : Marker} {first last n : Nat}

/-- Whether the bounds of the marker are the two numbers, neither with more digits than can be
read. -/
def Spans (m : Marker) (first last : Nat) : Prop :=
  ∃ before behind : Text, m.span = before ++ '-' :: behind ∧ SpellsShort before first ∧
    SpellsShort behind last

theorem spans_iff (what : Text) : m.Spans first last ↔ readSpan what m.span = .ok (first, last) :=
  readSpan_eq_ok_iff_spellsShort.symm

theorem Spans.unique {first' last' : Nat} (h : m.Spans first last) (h' : m.Spans first' last') :
    first' = first ∧ last' = last := by
  have hSpan := (spans_iff "marker range".toList).mp h
  cases hSpan.symm.trans ((spans_iff _).mp h')
  exact ⟨rfl, rfl⟩

theorem rangeAt_eq_of_spans (h : m.Spans first last) (n : Nat) :
    m.rangeAt n = LineRange.of ((n + first : Nat) : Int) ((n + last : Nat) : Int) := by
  unfold rangeAt
  rw [(spans_iff _).mp h]

theorem rangeAt_of_spans (h : m.Spans first last) (hOrder : first ≤ last) (hn : 1 ≤ n) :
    ∃ range : LineRange, m.rangeAt n = .ok range ∧ range.first = n + first ∧
      range.last = n + last := by
  rw [rangeAt_eq_of_spans h]
  refine ⟨⟨n + first, n + last, by omega, by omega⟩, ?_, rfl, rfl⟩
  exact LineRange.of_eq_ok_iff.mpr ⟨rfl, rfl⟩

/-! ## Markers at fault -/

/-- Whether the bounds of a marker on line `n` are malformed, or reversed by numbers that can be
named. -/
def IsFaulty (m : Marker) (n : Nat) : Prop :=
  ¬ IsSpanText m.span ∨ ∃ first last, m.Spans first last ∧ last < first ∧ n + first < numberBound

theorem isFaulty_iff_of_spans (h : m.Spans first last) :
    m.IsFaulty n ↔ last < first ∧ n + first < numberBound := by
  constructor
  · rintro (hNone | ⟨a, b, hOther, hReversed⟩)
    · obtain ⟨x, y, hSpan, hx, hy⟩ := h
      exact absurd ⟨x, y, _, _, hSpan, hx.1, hy.1⟩ hNone
    · obtain ⟨rfl, rfl⟩ := h.unique hOther
      exact hReversed
  · exact fun hReversed => .inr ⟨first, last, h, hReversed⟩

/-- Whether the bounds of a marker on line `n` go past what can be read or, if they are reversed,
past what can be named. -/
def IsBeyond (m : Marker) (n : Nat) : Prop :=
  (IsSpanText m.span ∧ ¬ ∃ first last, m.Spans first last) ∨
    ∃ first last, m.Spans first last ∧ last < first ∧ numberBound ≤ n + first

theorem isBeyond_iff_of_spans (h : m.Spans first last) :
    m.IsBeyond n ↔ last < first ∧ numberBound ≤ n + first := by
  constructor
  · rintro (⟨-, hNone⟩ | ⟨a, b, hOther, hReversed⟩)
    · exact absurd ⟨first, last, h⟩ hNone
    · obtain ⟨rfl, rfl⟩ := h.unique hOther
      exact hReversed
  · exact fun hReversed => .inr ⟨first, last, h, hReversed⟩

theorem rangeAt_of_error {fault : Fault}
    (h : readSpan "marker range".toList m.span = .error fault) (n : Nat) :
    m.rangeAt n = .error fault := by
  unfold rangeAt
  rw [h]

/-- A marker names no lines because it is at fault, or because it goes too far. -/
theorem kind_of_rangeAt (hn : 1 ≤ n) {fault : Fault} (h : m.rangeAt n = .error fault) :
    fault.kind = .parse ∧ m.IsFaulty n ∨ fault.kind = .value ∧ m.IsBeyond n := by
  obtain ⟨hNone, hSpan⟩ | ⟨hText, hValue⟩ := readSpan_cases "marker range".toList m.span
  · cases h.symm.trans (rangeAt_of_error hSpan n)
    exact .inl ⟨rfl, .inl hNone⟩
  · cases hSpan : readSpan "marker range".toList m.span with
    | error other =>
      cases h.symm.trans (rangeAt_of_error hSpan n)
      refine .inr ⟨hValue fault hSpan, .inl ⟨hText, ?_⟩⟩
      rintro ⟨first, last, hSpans⟩
      cases hSpan.symm.trans ((spans_iff _).mp hSpans)
    | ok ends =>
      have hSpans := (spans_iff _).mpr hSpan
      by_cases hOrder : ends.2 < ends.1
      · rw [rangeAt_eq_of_spans hSpans] at h
        obtain ⟨other, hOther, hKind⟩ := LineRange.of_reversed (Nat.add_lt_add_left hOrder n)
        cases h.symm.trans hOther
        rw [isFaulty_iff_of_spans hSpans, isBeyond_iff_of_spans hSpans]
        by_cases hFar : numberBound ≤ n + ends.1
        · exact .inr ⟨hKind.trans (if_pos hFar), hOrder, hFar⟩
        · exact .inl ⟨hKind.trans (if_neg hFar), hOrder, Nat.lt_of_not_le hFar⟩
      · obtain ⟨range, hRange, -⟩ := rangeAt_of_spans hSpans (Nat.le_of_not_lt hOrder) hn
        cases h.symm.trans hRange

theorem exists_rangeAt_error_iff (hn : 1 ≤ n) :
    (∃ fault, fault.kind = .parse ∧ m.rangeAt n = .error fault) ↔ m.IsFaulty n := by
  constructor
  · rintro ⟨fault, hKind, h⟩
    rcases kind_of_rangeAt hn h with ⟨-, hFaulty⟩ | ⟨hValue, -⟩
    · exact hFaulty
    · cases hValue.symm.trans hKind
  · rintro (hNone | ⟨first, last, hSpans, hOrder, hNear⟩)
    · obtain ⟨-, hSpan⟩ | ⟨hText, -⟩ := readSpan_cases "marker range".toList m.span
      · exact ⟨_, rfl, rangeAt_of_error hSpan n⟩
      · exact absurd hText hNone
    · obtain ⟨fault, hFault, hKind⟩ := LineRange.of_reversed (Nat.add_lt_add_left hOrder n)
      exact ⟨fault, hKind.trans (if_neg (Nat.not_le_of_lt hNear)),
        rangeAt_eq_of_spans hSpans n ▸ hFault⟩

theorem exists_rangeAt_value_iff (hn : 1 ≤ n) :
    (∃ fault, fault.kind = .value ∧ m.rangeAt n = .error fault) ↔ m.IsBeyond n := by
  constructor
  · rintro ⟨fault, hKind, h⟩
    rcases kind_of_rangeAt hn h with ⟨hParse, -⟩ | ⟨-, hBeyond⟩
    · cases hParse.symm.trans hKind
    · exact hBeyond
  · rintro (⟨hText, hNone⟩ | ⟨first, last, hSpans, hOrder, hFar⟩)
    · obtain ⟨hNot, -⟩ | ⟨-, hValue⟩ := readSpan_cases "marker range".toList m.span
      · exact absurd hText hNot
      · cases hSpan : readSpan "marker range".toList m.span with
        | error fault => exact ⟨fault, hValue fault hSpan, rangeAt_of_error hSpan n⟩
        | ok ends => exact absurd ⟨ends.1, ends.2, (spans_iff _).mpr hSpan⟩ hNone
    · obtain ⟨fault, hFault, hKind⟩ := LineRange.of_reversed (Nat.add_lt_add_left hOrder n)
      exact ⟨fault, hKind.trans (if_pos hFar), rangeAt_eq_of_spans hSpans n ▸ hFault⟩

/-! ## Looking for a marker -/

/-- How a block is looked for: in a file that is not opened, in one without its marker, in one that
breaks off before a marker is met, or in one whose first marker decides. -/
inductive Search (disk : Disk) (path : Path) (id : Text) : Except Fault LineRange → Prop
  | notOpened {e : OpenError} (hFeed : disk.feed? path = .error e) :
      Search disk path id (.error (.ofSource path e))
  | notFound {feed : Feed} {fault : Fault} (hFeed : disk.feed? path = .ok feed)
      (hNone : ∀ line ∈ feed.lines, ¬ Names id line)
      (hFlaw : ∀ cause, feed.flaw ≠ some (.notRead cause)) (hKind : fault.kind = .notFound) :
      Search disk path id (.error fault)
  | brokenOff {feed : Feed} {cause : SystemError} (hFeed : disk.feed? path = .ok feed)
      (hNone : ∀ line ∈ feed.lines, ¬ Names id line)
      (hFlaw : feed.flaw = some (.notRead cause)) :
      Search disk path id (.error (.brokenOff cause))
  | decided {feed : Feed} {n : Nat} {m : Marker} (hFeed : disk.feed? path = .ok feed)
      (hFirst : IsFirst id 1 feed.lines n m) :
      Search disk path id (m.rangeAt n)

theorem search_locate (disk : Disk) (path : Path) (id : Text) :
    Search disk path id (locate disk path id).outcome := by
  cases hFeed : disk.feed? path with
  | error e =>
    rw [locate_missing hFeed]
    exact .notOpened hFeed
  | ok feed =>
    cases hFind : find? id 1 feed.lines with
    | some found =>
      rw [outcome_locate_of_find? hFeed hFind]
      exact .decided hFeed (find?_eq_some_iff.mp hFind)
    | none =>
      have hNone := find?_eq_none_iff.mp hFind
      unfold locate
      simp only [hFeed, hFind]
      split
      · rename_i flaw hFlaw
        exact .notFound hFeed hNone (by simp [hFlaw]) rfl
      · rename_i cause hFlaw
        exact .brokenOff hFeed hNone hFlaw
      · rename_i hFlaw
        exact .notFound hFeed hNone (by simp [hFlaw]) rfl

theorem IsFirst.unique {id : Text} {lines : List Text} {n' : Nat} {m' : Marker}
    (h : IsFirst id 1 lines n m) (h' : IsFirst id 1 lines n' m') : n' = n ∧ m' = m := by
  cases (find?_eq_some_iff.mpr h).symm.trans (find?_eq_some_iff.mpr h')
  exact ⟨rfl, rfl⟩

theorem IsFirst.one_le {id : Text} {lines : List Text} (h : IsFirst id 1 lines n m) : 1 ≤ n :=
  le_of_find? (find?_eq_some_iff.mpr h)

theorem IsFirst.not_none {id : Text} {lines : List Text} (h : IsFirst id 1 lines n m) :
    ¬ ∀ line ∈ lines, ¬ Names id line := by
  intro hNone
  have hFind : find? id 1 lines = none := find?_eq_none_iff.mpr hNone
  cases hFind.symm.trans (find?_eq_some_iff.mpr h)

/-- Whether the file breaks off before a marker with the identifier is met. -/
def BreaksOff (disk : Disk) (path : Path) (id : Text) : Prop :=
  ∃ feed cause, disk.feed? path = .ok feed ∧ (∀ line ∈ feed.lines, ¬ Names id line) ∧
    feed.flaw = some (.notRead cause)

section

variable {disk : Disk} {path : Path} {id : Text}

/-- Looking for a block meets something malformed exactly if its first marker is at fault. -/
theorem exists_locate_error_iff :
    (∃ fault, fault.kind = .parse ∧ (locate disk path id).outcome = .error fault) ↔
      ∃ feed n m, disk.feed? path = .ok feed ∧ IsFirst id 1 feed.lines n m ∧ m.IsFaulty n := by
  have hSearch := search_locate disk path id
  generalize (locate disk path id).outcome = outcome at hSearch ⊢
  cases hSearch with
  | @notOpened e hFeed =>
    refine iff_of_false ?_ ?_
    · rintro ⟨_, hKind, ⟨⟩⟩
      cases e <;> cases hKind
    · rintro ⟨_, _, _, hOk, -⟩
      cases hFeed.symm.trans hOk
  | notFound hFeed hNone hFlaw hKind =>
    refine iff_of_false ?_ ?_
    · rintro ⟨_, hParse, ⟨⟩⟩
      cases hKind.symm.trans hParse
    · rintro ⟨_, _, _, hOk, hFirst, -⟩
      cases hFeed.symm.trans hOk
      exact hFirst.not_none hNone
  | brokenOff hFeed hNone hFlaw =>
    refine iff_of_false ?_ ?_
    · rintro ⟨_, hParse, ⟨⟩⟩
      cases hParse
    · rintro ⟨_, _, _, hOk, hFirst, -⟩
      cases hFeed.symm.trans hOk
      exact hFirst.not_none hNone
  | decided hFeed hFirst =>
    rw [exists_rangeAt_error_iff hFirst.one_le]
    constructor
    · exact fun hFaulty => ⟨_, _, _, hFeed, hFirst, hFaulty⟩
    · rintro ⟨_, _, _, hOk, hOther, hFaulty⟩
      cases hFeed.symm.trans hOk
      obtain ⟨rfl, rfl⟩ := hFirst.unique hOther
      exact hFaulty

/-- It meets a number or a name that no program can use exactly if the path has a null character or
the first marker goes too far. -/
theorem exists_locate_value_iff :
    (∃ fault, fault.kind = .value ∧ (locate disk path id).outcome = .error fault) ↔
      '\x00' ∈ path.toText ∨
        ∃ feed n m, disk.feed? path = .ok feed ∧ IsFirst id 1 feed.lines n m ∧ m.IsBeyond n := by
  rw [← Disk.feed?_eq_nullCharacter_iff (d := disk)]
  have hSearch := search_locate disk path id
  generalize (locate disk path id).outcome = outcome at hSearch ⊢
  cases hSearch with
  | @notOpened e hFeed =>
    rw [hFeed]
    cases e with
    | nullCharacter => exact iff_of_true ⟨_, rfl, rfl⟩ (.inl rfl)
    | system cause =>
      refine iff_of_false ?_ ?_
      · rintro ⟨_, hKind, ⟨⟩⟩
        cases hKind
      · rintro (hNull | ⟨_, _, _, hOk, -⟩)
        · cases hNull
        · cases hOk
  | notFound hFeed hNone hFlaw hKind =>
    rw [hFeed]
    refine iff_of_false ?_ ?_
    · rintro ⟨_, hValue, ⟨⟩⟩
      cases hKind.symm.trans hValue
    · rintro (hNull | ⟨_, _, _, hOk, hFirst, -⟩)
      · cases hNull
      · cases hOk
        exact hFirst.not_none hNone
  | brokenOff hFeed hNone hFlaw =>
    rw [hFeed]
    refine iff_of_false ?_ ?_
    · rintro ⟨_, hValue, ⟨⟩⟩
      cases hValue
    · rintro (hNull | ⟨_, _, _, hOk, hFirst, -⟩)
      · cases hNull
      · cases hOk
        exact hFirst.not_none hNone
  | decided hFeed hFirst =>
    rw [hFeed, exists_rangeAt_value_iff hFirst.one_le]
    constructor
    · exact fun hBeyond => .inr ⟨_, _, _, rfl, hFirst, hBeyond⟩
    · rintro (hNull | ⟨_, _, _, hOk, hOther, hBeyond⟩)
      · cases hNull
      · cases hOk
        obtain ⟨rfl, rfl⟩ := hFirst.unique hOther
        exact hBeyond

/-- The system itself is heard exactly if the file breaks off before a marker is met. -/
theorem exists_locate_system_iff :
    (∃ fault, fault.IsSystem ∧ (locate disk path id).outcome = .error fault) ↔
      BreaksOff disk path id := by
  have hSearch := search_locate disk path id
  generalize (locate disk path id).outcome = outcome at hSearch ⊢
  cases hSearch with
  | @notOpened e hFeed =>
    refine iff_of_false ?_ ?_
    · rintro ⟨_, ⟨label, hKind⟩, ⟨⟩⟩
      cases e <;> cases hKind
    · rintro ⟨_, _, hOk, -⟩
      cases hFeed.symm.trans hOk
  | notFound hFeed hNone hFlaw hKind =>
    refine iff_of_false ?_ ?_
    · rintro ⟨_, ⟨label, hSystem⟩, ⟨⟩⟩
      cases hKind.symm.trans hSystem
    · rintro ⟨_, cause, hOk, -, hBroken⟩
      cases hFeed.symm.trans hOk
      exact hFlaw cause hBroken
  | brokenOff hFeed hNone hFlaw => exact iff_of_true ⟨_, ⟨_, rfl⟩, rfl⟩ ⟨_, _, hFeed, hNone, hFlaw⟩
  | decided hFeed hFirst =>
    refine iff_of_false ?_ ?_
    · rintro ⟨_, ⟨label, hSystem⟩, h⟩
      rcases kind_of_rangeAt hFirst.one_le h with ⟨hKind, -⟩ | ⟨hKind, -⟩ <;>
        cases hKind.symm.trans hSystem
    · rintro ⟨_, _, hOk, hNone, -⟩
      cases hFeed.symm.trans hOk
      exact hFirst.not_none hNone

theorem kind_of_locate {fault : Fault} (h : (locate disk path id).outcome = .error fault) :
    fault.kind = .notFound ∨ fault.IsWriting ∨ fault.IsSystem := by
  have hSearch := search_locate disk path id
  rw [h] at hSearch
  generalize hOutcome : (.error fault : Except Fault LineRange) = outcome at hSearch
  cases hSearch with
  | @notOpened e hFeed =>
    cases hOutcome
    cases e with
    | nullCharacter => exact .inr (.inl (.inr rfl))
    | system cause => exact .inl rfl
  | notFound hFeed hNone hFlaw hKind =>
    cases hOutcome
    exact .inl hKind
  | brokenOff hFeed hNone hFlaw =>
    cases hOutcome
    exact .inr (.inr ⟨_, rfl⟩)
  | decided hFeed hFirst =>
    exact .inr (.inl ((kind_of_rangeAt hFirst.one_le hOutcome.symm).imp And.left And.left))

end

end Excerpt.Marker
