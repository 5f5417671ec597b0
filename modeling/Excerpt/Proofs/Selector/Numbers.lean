import Excerpt.Proofs.Outcome
import Excerpt.Proofs.Text.Numeral
import Excerpt.Proofs.Text.Pieces
import Excerpt.Selector.Item
import Excerpt.Selector.Numbers

/-!
# What is read as a number

A number that is read can also be written, and a span has exactly one dash. What is refused is
either no numeral, or it has a run of digits that is longer than any numeral may be.

* `readNumber_eq_ok_iff`, `readSpan_eq_ok_iff`: what is read.
* `readNumber_ofNat`, `readSpan_ofNat`: what is written is read back.
* `lt_of_readNumber`, `lt_of_readSpan`: the bound on the numbers.
* `failsBy_readNumber`, `failsBy_readSpan`: what is refused, and under which kind.
-/

namespace Excerpt

/-- The first number that has too many digits to be read or written. -/
def numberBound : Nat := 10 ^ Fault.digitLimit

theorem ten_le_numberBound : 10 ≤ numberBound := Nat.le_self_pow (by decide) 10

theorem LineRange.isUnwritable_natCast (n : Nat) :
    isUnwritable (n : Int) = decide (numberBound ≤ n) := by
  unfold isUnwritable numberBound
  rw [Int.natAbs_natCast, Nat.pow_eq]

/-! ## Long runs of digits -/

/-- Whether the text has more digits in a row than a numeral may have. -/
def Text.HasLongRun (t : Text) : Prop :=
  ∃ run, run <:+: t ∧ Fault.digitLimit < run.length ∧ ∀ c ∈ run, isDigit c = true

theorem Text.HasLongRun.mono {t u : Text} (h : t.HasLongRun) (hInfix : t <:+: u) :
    u.HasLongRun := by
  obtain ⟨run, hRun, hLong, hDigits⟩ := h
  exact ⟨run, hRun.trans hInfix, hLong, hDigits⟩

/-- Whether the fault is one of how something is written. -/
def Fault.IsWriting (fault : Fault) : Prop := fault.kind = .parse ∨ fault.kind = .value

/-- Whether the fault is one that the system reports itself. -/
def Fault.IsSystem (fault : Fault) : Prop := ∃ label, fault.kind = .system label

/-- Whether the fault is one of how the text is written: only a long run of digits is no fault of
the grammar. -/
def Fault.IsOf (fault : Fault) (t : Text) : Prop :=
  fault.kind = .parse ∨ fault.kind = .value ∧ t.HasLongRun

theorem Fault.IsOf.isWriting {t : Text} {fault : Fault} (h : fault.IsOf t) : fault.IsWriting :=
  h.imp_right And.left

theorem FailsBy.ofInfix {α : Type} {t u : Text} {x : Except Fault α}
    (h : FailsBy (Fault.IsOf · t) x) (hInfix : t <:+: u) : FailsBy (Fault.IsOf · u) x :=
  h.mono fun _ => Or.imp_right (And.imp_right (·.mono hInfix))

/-! ## Numbers -/

variable {what token : Text}

theorem numberOf_eq_ok_iff {digits : List Nat} {n : Nat} :
    numberOf digits = .ok n ↔ digits.length ≤ Fault.digitLimit ∧ Numeral.value digits = n := by
  unfold numberOf
  split
  · rename_i hLong
    simp only [reduceCtorEq, false_iff]
    omega
  · rename_i hShort
    rw [Except.ok.injEq]
    exact ⟨fun h => ⟨by omega, h⟩, And.right⟩

theorem readNumber_eq_ok_iff {n : Nat} :
    readNumber what token = .ok n ↔
      ∃ digits, paddedDigits? token = some digits ∧ numberOf digits = .ok n := by
  unfold readNumber
  cases paddedDigits? token with
  | none => simp
  | some digits => simp

theorem lt_of_readNumber {n : Nat} (h : readNumber what token = .ok n) : n < numberBound := by
  obtain ⟨digits, hDigits, hNumber⟩ := readNumber_eq_ok_iff.mp h
  obtain ⟨hLength, rfl⟩ := numberOf_eq_ok_iff.mp hNumber
  have hValue := Numeral.value_lt hDigits
  exact hValue.trans_le (Nat.pow_le_pow_right (by decide) hLength)

/-- Every number that can be written is read back. -/
theorem readNumber_ofNat {n : Nat} (h : n < numberBound) (what : Text) :
    readNumber what (Numeral.ofNat n) = .ok n := by
  obtain ⟨digits, hDigits, hValue⟩ := Numeral.exists_digits_ofNat n
  obtain ⟨hLength, -⟩ := Numeral.digits?_eq_some hDigits
  have hShort : (Numeral.ofNat n).length ≤ Fault.digitLimit :=
    Numeral.length_ofNat_le (by decide) h
  have hPadded : paddedDigits? (Numeral.ofNat n) = some digits := by
    unfold paddedDigits?
    rw [Text.trim_eq_self fun c hc => Numeral.isBlank_of_mem_ofNat hc, hDigits]
  exact readNumber_eq_ok_iff.mpr
    ⟨digits, hPadded, numberOf_eq_ok_iff.mpr ⟨hLength ▸ hShort, hValue⟩⟩

theorem failsBy_numberOf_of_digits? {digits : List Nat} (h : Numeral.digits? token = some digits) :
    FailsBy (Fault.IsOf · token) (numberOf digits) := by
  obtain ⟨hLength, -⟩ := Numeral.digits?_eq_some h
  unfold numberOf
  split
  · rename_i hLong
    refine failsBy_error (.inr ⟨rfl, token, List.infix_rfl, ?_, ?_⟩)
    · omega
    · exact fun c hc => Numeral.isDigit_of_digits? h hc
  · exact failsBy_ok _

theorem failsBy_numberOf {digits : List Nat} (h : paddedDigits? token = some digits) :
    FailsBy (Fault.IsOf · token) (numberOf digits) :=
  (failsBy_numberOf_of_digits? h).ofInfix (Text.infix_of_trim token)

theorem failsBy_readNumber (what token : Text) :
    FailsBy (Fault.IsOf · token) (readNumber what token) := by
  unfold readNumber
  cases h : paddedDigits? token with
  | none => exact failsBy_error (.inl rfl)
  | some digits => exact failsBy_numberOf h

/-! ## Spans -/

theorem exists_numerals {first last : List Nat}
    (h : (Text.splitOn '-' token).map paddedDigits? = [some first, some last]) :
    ∃ x y, Text.splitOn '-' token = [x, y] ∧ paddedDigits? x = some first ∧
      paddedDigits? y = some last := by
  obtain ⟨x, y, hSplit⟩ : ∃ x y, Text.splitOn '-' token = [x, y] := by
    have hTwo := congrArg List.length h
    rw [List.length_map] at hTwo
    exact List.length_eq_two.mp hTwo
  rw [hSplit] at h
  obtain ⟨hx, hy⟩ : paddedDigits? x = some first ∧ paddedDigits? y = some last := by
    simpa using h
  exact ⟨x, y, hSplit, hx, hy⟩

theorem readSpan_eq_ok_iff {a b : Nat} :
    readSpan what token = .ok (a, b) ↔ ∃ first last, Text.splitOn '-' token = [first, last] ∧
      readNumber what first = .ok a ∧ readNumber what last = .ok b := by
  unfold readSpan
  constructor
  · intro h
    split at h
    · rename_i first last hPieces
      obtain ⟨x, y, hSplit, hx, hy⟩ := exists_numerals hPieces
      refine ⟨x, y, hSplit, ?_⟩
      cases ha : numberOf first with
      | error fault => simp [ha] at h
      | ok m =>
        cases hb : numberOf last with
        | error fault => simp [ha, hb] at h
        | ok n =>
          obtain ⟨rfl, rfl⟩ : m = a ∧ n = b := by simpa [ha, hb] using h
          exact ⟨readNumber_eq_ok_iff.mpr ⟨first, hx, ha⟩,
            readNumber_eq_ok_iff.mpr ⟨last, hy, hb⟩⟩
    · cases h
  · rintro ⟨x, y, hSplit, hx, hy⟩
    obtain ⟨first, hFirst, ha⟩ := readNumber_eq_ok_iff.mp hx
    obtain ⟨last, hLast, hb⟩ := readNumber_eq_ok_iff.mp hy
    simp [hSplit, hFirst, hLast, ha, hb]

theorem readSpan_ofNat {a b : Nat} (ha : a < numberBound) (hb : b < numberBound) (what : Text) :
    readSpan what (Numeral.ofNat a ++ '-' :: Numeral.ofNat b) = .ok (a, b) := by
  refine readSpan_eq_ok_iff.mpr ⟨Numeral.ofNat a, Numeral.ofNat b, ?_, ?_, ?_⟩
  · rw [Text.splitOn_append (Numeral.not_mem_ofNat (by decide)),
      Text.splitOn_of_not_mem (Numeral.not_mem_ofNat (by decide))]
  · exact readNumber_ofNat ha what
  · exact readNumber_ofNat hb what

theorem lt_of_readSpan {a b : Nat} (h : readSpan what token = .ok (a, b)) :
    a < numberBound ∧ b < numberBound := by
  obtain ⟨first, last, -, hFirst, hLast⟩ := readSpan_eq_ok_iff.mp h
  exact ⟨lt_of_readNumber hFirst, lt_of_readNumber hLast⟩

theorem failsBy_readSpan (what token : Text) :
    FailsBy (Fault.IsOf · token) (readSpan what token) := by
  unfold readSpan
  split
  · rename_i first last hPieces
    have hOf (digits : List Nat) (h : some digits ∈ [some first, some last]) :
        FailsBy (Fault.IsOf · token) (numberOf digits) := by
      rw [← hPieces] at h
      obtain ⟨piece, hMem, hPiece⟩ := List.mem_map.mp h
      exact (failsBy_numberOf hPiece).ofInfix (Text.infix_of_mem_splitOn hMem)
    have hFirst := hOf first (by simp)
    have hLast := hOf last (by simp)
    cases ha : numberOf first with
    | error fault => exact failsBy_error (hFirst fault ha)
    | ok a =>
      cases hb : numberOf last with
      | error fault => exact failsBy_error (hLast fault hb)
      | ok b => exact failsBy_ok _
  · exact failsBy_error (.inl rfl)

/-! ## Lines -/

theorem failsBy_lineNumber (t : Text) (line : Int) :
    FailsBy (Fault.IsOf · t) (LineNumber.of line) := by
  unfold LineNumber.of
  split
  · exact failsBy_ok _
  · exact failsBy_error (.inl rfl)

/-- The refusal of a range can name its ends if they can be written. -/
theorem failsBy_lineRange {a b : Nat} (ha : a < numberBound) (hb : b < numberBound) (t : Text) :
    FailsBy (Fault.IsOf · t) (LineRange.of a b) := by
  unfold LineRange.of
  split
  · exact failsBy_ok _
  · have hWords (n : Nat) (hn : n < numberBound) : LineRange.isUnwritable n = false := by
      rw [LineRange.isUnwritable_natCast, decide_eq_false_iff_not]
      exact Nat.not_le_of_lt hn
    refine failsBy_error (.inl ?_)
    unfold LineRange.refuse
    rw [hWords a ha, hWords b hb]
    simp only [Bool.or_self, Bool.false_eq_true, if_false]
    split <;> rfl

end Excerpt
