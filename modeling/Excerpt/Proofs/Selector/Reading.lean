import Excerpt.Proofs.Selector.Body
import Excerpt.Proofs.Selector.Grammar

/-!
# Reading blocks

A block is read exactly if the grammar has it, and as the items that the grammar names. It is shown
for one level after the other, from the numbers up, for texts without a run of digits that is too
long to be read.

* `readNumber_eq_ok_iff_spells`, `readSpan_eq_ok_iff_spells`: numbers, and two of them with a dash.
* `readSpan_cases`: what is refused where two numbers are expected.
* `readUnbraced_eq_ok_iff`: what stands behind the colon of a block.
* `readBlock_eq_ok_iff`: blocks.
-/

namespace Excerpt

variable {t what : Text} {items : List Item}

theorem not_hasLongRun_inside {u : Text} (h : ¬ t.HasLongRun) (hInfix : u <:+: t) :
    ¬ u.HasLongRun :=
  fun hRun => h (hRun.mono hInfix)

theorem not_hasLongRun_of_length (h : t.length ≤ Fault.digitLimit) : ¬ t.HasLongRun := by
  rintro ⟨run, hRun, hLong, -⟩
  have hLength := hRun.length_le
  omega

/-! ## Numbers and spans -/

/-- The text is a numeral of the number, with blanks around it and no more digits than can be
read. -/
def SpellsShort (t : Text) (n : Nat) : Prop := Spells t n ∧ (Text.trim t).length ≤ Fault.digitLimit

theorem readNumber_eq_ok_iff_spellsShort {n : Nat} :
    readNumber what t = .ok n ↔ SpellsShort t n := by
  unfold SpellsShort
  rw [readNumber_eq_ok_iff, spells_iff]
  constructor
  · rintro ⟨digits, hDigits, hNumber⟩
    obtain ⟨hLength, hValue⟩ := numberOf_eq_ok_iff.mp hNumber
    exact ⟨⟨digits, hDigits, hValue⟩, (Numeral.digits?_eq_some hDigits).1 ▸ hLength⟩
  · rintro ⟨⟨digits, hDigits, hValue⟩, hShort⟩
    obtain ⟨hLength, -⟩ := Numeral.digits?_eq_some hDigits
    exact ⟨digits, hDigits, numberOf_eq_ok_iff.mpr ⟨hLength ▸ hShort, hValue⟩⟩

theorem Spells.short {n : Nat} (h : Spells t n) (hRun : ¬ t.HasLongRun) : SpellsShort t n := by
  refine ⟨h, ?_⟩
  by_contra hLong
  obtain ⟨digits, hDigits, -⟩ := spells_iff.mp h
  refine hRun ⟨Text.trim t, Text.infix_of_trim t, by omega, fun c hc => ?_⟩
  exact Numeral.isDigit_of_digits? hDigits hc

theorem readNumber_eq_ok_iff_spells (h : ¬ t.HasLongRun) {n : Nat} :
    readNumber what t = .ok n ↔ Spells t n :=
  readNumber_eq_ok_iff_spellsShort.trans ⟨And.left, fun hSpells => hSpells.short h⟩

theorem spellsShort_ofNat {n : Nat} (h : n < numberBound) : SpellsShort (Numeral.ofNat n) n :=
  readNumber_eq_ok_iff_spellsShort.mp (readNumber_ofNat h [])

/-- A text with two parts around a dash, each of which spells a number, has no other dash. -/
theorem splitOn_of_spells {first last : Text} {a b : Nat} (hFirst : Spells first a)
    (hLast : Spells last b) : Text.splitOn '-' (first ++ '-' :: last) = [first, last] := by
  rw [Text.splitOn_append (hFirst.not_mem (by decide)),
    Text.splitOn_of_not_mem (hLast.not_mem (by decide))]

theorem append_of_splitOn {first last : Text} (h : Text.splitOn '-' t = [first, last]) :
    t = first ++ '-' :: last := by
  rw [← Text.join_splitOn '-' t, h, Text.join_cons_cons]
  simp [Text.join]

theorem readSpan_eq_ok_iff_spellsShort {a b : Nat} :
    readSpan what t = .ok (a, b) ↔
      ∃ first last, t = first ++ '-' :: last ∧ SpellsShort first a ∧ SpellsShort last b := by
  rw [readSpan_eq_ok_iff]
  simp only [readNumber_eq_ok_iff_spellsShort]
  constructor
  · rintro ⟨first, last, hSplit, hEnds⟩
    exact ⟨first, last, append_of_splitOn hSplit, hEnds⟩
  · rintro ⟨first, last, rfl, hFirst, hLast⟩
    exact ⟨first, last, splitOn_of_spells hFirst.1 hLast.1, hFirst, hLast⟩

theorem readSpan_eq_ok_iff_spells (h : ¬ t.HasLongRun) {a b : Nat} :
    readSpan what t = .ok (a, b) ↔
      ∃ first last, t = first ++ '-' :: last ∧ Spells first a ∧ Spells last b := by
  rw [readSpan_eq_ok_iff_spellsShort]
  constructor
  · rintro ⟨first, last, hText, hFirst, hLast⟩
    exact ⟨first, last, hText, hFirst.1, hLast.1⟩
  · rintro ⟨first, last, rfl, hFirst, hLast⟩
    have hShortFirst := not_hasLongRun_inside h (List.prefix_append first _).isInfix
    have hShortLast := not_hasLongRun_inside h (Text.infix_behind first '-' last)
    exact ⟨first, last, rfl, hFirst.short hShortFirst, hLast.short hShortLast⟩

/-- Whether the text is two numerals with a dash between them, of however many digits. -/
def IsSpanText (t : Text) : Prop :=
  ∃ first last : Text, ∃ a b, t = first ++ '-' :: last ∧ Spells first a ∧ Spells last b

/-- What is no span is refused as unreadable; in a span, only a number can be refused. -/
theorem readSpan_cases (what t : Text) :
    ¬ IsSpanText t ∧ readSpan what t = .error (.unreadable what t) ∨
      IsSpanText t ∧ FailsBy (·.kind = .value) (readSpan what t) := by
  have hNumber (digits : List Nat) : FailsBy (·.kind = .value) (numberOf digits) := by
    unfold numberOf
    split
    · exact failsBy_error rfl
    · exact failsBy_ok _
  unfold readSpan
  split
  · rename_i first last hPieces
    obtain ⟨x, y, hSplit, hx, hy⟩ := exists_numerals hPieces
    refine .inr ⟨⟨x, y, _, _, append_of_splitOn hSplit, spells_iff.mpr ⟨first, hx, rfl⟩,
      spells_iff.mpr ⟨last, hy, rfl⟩⟩, ?_⟩
    cases ha : numberOf first with
    | error fault => exact failsBy_error (hNumber first fault ha)
    | ok a =>
      cases hb : numberOf last with
      | error fault => exact failsBy_error (hNumber last fault hb)
      | ok b => exact failsBy_ok _
  · rename_i hPieces
    refine .inl ⟨?_, rfl⟩
    rintro ⟨first, last, a, b, rfl, hFirst, hLast⟩
    obtain ⟨digits, hDigits, -⟩ := spells_iff.mp hFirst
    obtain ⟨digits', hDigits', -⟩ := spells_iff.mp hLast
    rw [splitOn_of_spells hFirst hLast] at hPieces
    exact hPieces digits digits' (by simp [hDigits, hDigits'])

theorem readColumns_eq_ok_iff (h : ¬ t.HasLongRun) {line : Nat} {item : Item} :
    readColumns line t = .ok item ↔ ColumnsText line t item := by
  rw [readColumns_eq, bind_eq_ok_iff]
  constructor
  · rintro ⟨⟨a, b⟩, hSpan, hItem⟩
    obtain ⟨c, hc, rfl⟩ := map_eq_ok_iff.mp hItem
    obtain ⟨hLine, ha, hb⟩ := CharRange.of_eq_ok_iff.mp hc
    obtain rfl : c.first = a := Int.natCast_inj.mp ha
    obtain rfl : c.last = b := Int.natCast_inj.mp hb
    obtain ⟨first, last, rfl, hFirst, hLast⟩ := (readSpan_eq_ok_iff_spells h).mp hSpan
    exact .span (Int.natCast_inj.mp hLine) hFirst hLast
  · intro hText
    cases hText with
    | @span c first last hLine hFirst hLast =>
      have hOf : CharRange.of line c.first c.last = .ok c :=
        CharRange.of_eq_ok_iff.mpr ⟨Int.natCast_inj.mpr hLine, rfl, rfl⟩
      refine ⟨(c.first, c.last), ?_, map_eq_ok_iff.mpr ⟨c, hOf, rfl⟩⟩
      exact (readSpan_eq_ok_iff_spells h).mpr ⟨first, last, rfl, hFirst, hLast⟩

theorem readSpans_eq_ok_iff (h : ¬ t.HasLongRun) {line : Nat} :
    (Text.splitOn '|' t).mapM (readColumns line) = .ok items ↔ SpansText line t items := by
  rw [mapM_eq_ok_iff_of_mem (R := ColumnsText line) fun piece hPiece item =>
    readColumns_eq_ok_iff (not_hasLongRun_inside h (Text.infix_of_mem_splitOn hPiece))]
  constructor
  · intro hPieces
    exact separated_iff.mpr ⟨_, Text.splitOn_ne_nil '|' t, Text.join_splitOn '|' t, hPieces⟩
  · intro hSpans
    obtain ⟨pieces, hNe, rfl, hPieces⟩ := separated_iff.mp hSpans
    have hBar : ∀ piece ∈ pieces, '|' ∉ piece := by
      intro piece hPiece
      obtain ⟨item, -, hSpan⟩ := exists_of_forall₂ hPieces hPiece
      exact hSpan.not_mem (by decide)
    rwa [Text.splitOn_join hNe hBar]

/-! ## Braces -/

theorem unbrace_cases (t : Text) : unbrace t = t ∨ t = '\x7b' :: (unbrace t ++ ['\x7d']) := by
  unfold unbrace
  split
  · rename_i rest
    split
    · rename_i hLast
      obtain ⟨spans, rfl⟩ := List.getLast?_eq_some_iff.mp hLast
      exact .inr (by simp)
    · exact .inl rfl
  · exact .inl rfl

theorem unbrace_braced (spans : Text) : unbrace ('\x7b' :: (spans ++ ['\x7d'])) = spans := by
  simp [unbrace]

theorem unbrace_of_not_mem (h : '\x7b' ∉ t) : unbrace t = t := by
  rcases unbrace_cases t with hSame | hBraced
  · exact hSame
  · rw [hBraced] at h
    exact absurd List.mem_cons_self h

/-- What stands behind the colon of a block: spans, or spans in braces. -/
theorem readUnbraced_eq_ok_iff (h : ¬ t.HasLongRun) {line : Nat} :
    (Text.splitOn '|' (unbrace (Text.trim t))).mapM (readColumns line) = .ok items ↔
      SpansText line t items ∨ ∃ gap spans last : Text, Blanks gap ∧ SpansText line spans items ∧
        last.isBlank = true ∧ t = gap ++ '\x7b' :: (spans ++ '\x7d' :: last) := by
  have hShort := not_hasLongRun_inside h ((infix_of_unbrace _).trans (Text.infix_of_trim t))
  rw [readSpans_eq_ok_iff hShort]
  constructor
  · intro hSpans
    rcases unbrace_cases (Text.trim t) with hSame | hBraced
    · rw [hSame] at hSpans
      exact .inl (hSpans.of_trim_eq (Text.trim_trim t))
    · obtain ⟨gap, last, hGap, hLast, hText⟩ := Text.exists_trim t
      refine .inr ⟨gap, _, last, hGap, hSpans, hLast, ?_⟩
      rw [hBraced] at hText
      simpa using hText
  · rintro (hSpans | ⟨gap, spans, last, hGap, hSpans, hLast, rfl⟩)
    · have hTrim := hSpans.of_trim_eq (Text.trim_trim t).symm
      rwa [unbrace_of_not_mem (hTrim.not_mem (by decide))]
    · have hTrim : Text.trim (gap ++ '\x7b' :: (spans ++ '\x7d' :: last)) =
          '\x7b' :: (spans ++ ['\x7d']) := by
        rw [Text.trim_append_cons (by decide), Text.trimStart_eq_nil_iff.mpr hGap,
          Text.trimEnd_append_cons (by decide), Text.trimEnd_eq_nil_iff.mpr hLast, List.nil_append]
      rwa [hTrim, unbrace_braced]

/-! ## Blocks -/

theorem cases_of_readBlockLines (h : ¬ t.HasLongRun) (hRead : readBlock.readLines t = .ok items) :
    (∃ n : LineNumber, Spells t n.line ∧ items = [.line n]) ∨
      ∃ r : LineRange, ∃ first last, t = first ++ '-' :: last ∧ Spells first r.first ∧
        Spells last r.last ∧ items = [.range r] := by
  rw [readBlockLines_eq] at hRead
  split at hRead
  · obtain ⟨⟨a, b⟩, hSpan, hItems⟩ := bind_eq_ok_iff.mp hRead
    obtain ⟨r, hr, rfl⟩ := map_eq_ok_iff.mp hItems
    obtain ⟨ha, hb⟩ := LineRange.of_eq_ok_iff.mp hr
    obtain rfl : r.first = a := Int.natCast_inj.mp ha
    obtain rfl : r.last = b := Int.natCast_inj.mp hb
    obtain ⟨first, last, hText, hFirst, hLast⟩ := (readSpan_eq_ok_iff_spells h).mp hSpan
    exact .inr ⟨r, first, last, hText, hFirst, hLast, rfl⟩
  · obtain ⟨line, hNumber, hItems⟩ := bind_eq_ok_iff.mp hRead
    obtain ⟨n, hn, rfl⟩ := map_eq_ok_iff.mp hItems
    obtain rfl : n.line = line := Int.natCast_inj.mp (LineNumber.of_eq_ok_iff.mp hn)
    exact .inl ⟨n, (readNumber_eq_ok_iff_spells h).mp hNumber, rfl⟩

/-- A block that names no columns has no colon. -/
theorem columnParts?_of_not_mem (h : ':' ∉ t) : columnParts? t = none := by
  unfold columnParts?
  rw [Text.cut_eq_none_iff.mpr h]
  rfl

theorem readBlock_of_not_mem (hNe : t ≠ []) (h : ':' ∉ t) : readBlock t = readBlock.readLines t := by
  unfold readBlock
  rw [if_neg (by simpa using hNe), columnParts?_of_not_mem h]

/-- A block that begins with a number and a colon names columns. -/
theorem columnParts?_of_spells {before : Text} {line : Nat} (h : Spells before line)
    (after : Text) : columnParts? (before ++ ':' :: after) = some (before, after) := by
  have hColon : ':' ∉ before := h.not_mem (by decide)
  have hDash : '-' ∉ before := h.not_mem (by decide)
  exact columnParts?_eq_some.mpr ⟨Text.cut_append hColon after, hDash⟩

/-- Once its numbers are known, a block is read as what they make. -/
theorem readBlock_of_spells {n : Nat} (hShort : ¬ t.HasLongRun) (h : Spells t n) :
    readBlock t = (LineNumber.of n).map fun l => [.line l] := by
  have hNe : t ≠ [] := by
    rintro rfl
    exact absurd h.isBlank_eq_false (by decide)
  have hDash : '-' ∉ t := h.not_mem (by decide)
  rw [readBlock_of_not_mem hNe (h.not_mem (by decide)), readBlockLines_eq,
    if_neg (by simpa using hDash), (readNumber_eq_ok_iff_spells hShort).mpr h]
  rfl

theorem readBlock_of_span {first last : Text} {a b : Nat}
    (hShort : ¬ (first ++ '-' :: last).HasLongRun) (hFirst : Spells first a)
    (hLast : Spells last b) :
    readBlock (first ++ '-' :: last) = (LineRange.of a b).map fun r => [.range r] := by
  have hFirstColon : ':' ∉ first := hFirst.not_mem (by decide)
  have hLastColon : ':' ∉ last := hLast.not_mem (by decide)
  have hSpan : readSpan "line range".toList (first ++ '-' :: last) = .ok (a, b) :=
    (readSpan_eq_ok_iff_spells hShort).mpr ⟨first, last, rfl, hFirst, hLast⟩
  rw [readBlock_of_not_mem (by simp) (by simp [hFirstColon, hLastColon]), readBlockLines_eq,
    if_pos (by simp), hSpan]
  rfl

theorem readBlock_of_columns {before after : Text} {line : Nat}
    (hShort : ¬ (before ++ ':' :: after).HasLongRun) (h : Spells before line) :
    readBlock (before ++ ':' :: after) =
      (Text.splitOn '|' (unbrace (Text.trim after))).mapM (readColumns line) := by
  have hBefore := not_hasLongRun_inside hShort (List.prefix_append before _).isInfix
  rw [readBlock_of_columnParts (columnParts?_of_spells h after),
    (readNumber_eq_ok_iff_spells hBefore).mpr h]
  rfl

/-- A block that names columns: its line, and what stands behind the colon. -/
theorem readBlock_columns_iff {before after : Text} (h : ¬ (before ++ ':' :: after).HasLongRun)
    (hParts : columnParts? (before ++ ':' :: after) = some (before, after)) :
    readBlock (before ++ ':' :: after) = .ok items ↔ ∃ line, Spells before line ∧
      (SpansText line after items ∨ ∃ gap spans last : Text, Blanks gap ∧
        SpansText line spans items ∧ last.isBlank = true ∧
        after = gap ++ '\x7b' :: (spans ++ '\x7d' :: last)) := by
  have hBefore := not_hasLongRun_inside h (List.prefix_append before _).isInfix
  have hAfter := not_hasLongRun_inside h (Text.infix_behind before ':' after)
  rw [readBlock_of_columnParts hParts, bind_eq_ok_iff]
  refine exists_congr fun line => and_congr ?_ ?_
  · exact readNumber_eq_ok_iff_spells hBefore
  · exact readUnbraced_eq_ok_iff hAfter

theorem readBlock_eq_ok_iff (h : ¬ t.HasLongRun) :
    readBlock t = .ok items ↔ BlockText Blanks t items := by
  constructor
  · intro hRead
    cases hParts : columnParts? t with
    | none =>
      unfold readBlock at hRead
      rw [hParts] at hRead
      split at hRead
      · cases hRead
      · rcases cases_of_readBlockLines h hRead with
          ⟨n, hSpells, rfl⟩ | ⟨r, first, last, rfl, hFirst, hLast, rfl⟩
        · exact .line hSpells
        · exact .range hFirst hLast
    | some parts =>
      obtain ⟨before, after⟩ := parts
      obtain ⟨rfl, -⟩ := Text.cut_eq_some (columnParts?_eq_some.mp hParts).1
      obtain ⟨line, hLine, hSpans | ⟨gap, spans, last, hGap, hSpans, hLast, rfl⟩⟩ :=
        (readBlock_columns_iff h hParts).mp hRead
      · exact .columns hLine hSpans
      · exact .braced hLine hGap hSpans hLast
  · intro hBlock
    cases hBlock with
    | @line n t hLine =>
      rw [readBlock_of_spells h hLine]
      exact map_eq_ok_iff.mpr ⟨n, LineNumber.of_eq_ok_iff.mpr rfl, rfl⟩
    | @range r first last hFirst hLast =>
      rw [readBlock_of_span h hFirst hLast]
      exact map_eq_ok_iff.mpr ⟨r, LineRange.of_eq_ok_iff.mpr ⟨rfl, rfl⟩, rfl⟩
    | @columns line before spans items hLine hSpans =>
      have hParts := columnParts?_of_spells hLine spans
      exact (readBlock_columns_iff h hParts).mpr ⟨line, hLine, .inl hSpans⟩
    | @braced line before gap spans last items hLine hGap hSpans hLast =>
      have hParts := columnParts?_of_spells hLine (gap ++ '\x7b' :: (spans ++ '\x7d' :: last))
      exact (readBlock_columns_iff h hParts).mpr
        ⟨line, hLine, .inr ⟨gap, spans, last, hGap, hSpans, hLast, rfl⟩⟩

end Excerpt
