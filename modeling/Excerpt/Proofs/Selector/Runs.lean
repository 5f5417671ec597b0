import Excerpt.Proofs.Selector.Reading

/-!
# Runs of digits that are not read

Between two numbers of a block stands a character that is no digit, so a run of digits that is too
long stands in one of the numbers, and that number is refused. A block that is read has no such run,
and so the grammar alone tells what is read.

* `hasLongRun_append_cons_iff`: a long run stands on one side of a character that is no digit.
* `hasLongRun_trim_iff`, `hasLongRun_unbrace_iff`: nor does it reach into blanks or braces.
* `not_hasLongRun_of_readBlock`: what is read has no long run.
* `readBlock_eq_ok_iff_blockText`: which blocks are read, out of all texts.
-/

namespace Excerpt

variable {t before after : Text} {c : Char}

theorem hasLongRun_append_cons_iff (hc : isDigit c = false) :
    (before ++ c :: after).HasLongRun ↔ before.HasLongRun ∨ after.HasLongRun := by
  constructor
  · rintro ⟨run, hRun, hLong, hDigits⟩
    have hNot : c ∉ run := by
      intro hMem
      rw [hDigits c hMem] at hc
      cases hc
    rcases Text.infix_or_infix hRun hNot with hBefore | hAfter
    · exact .inl ⟨run, hBefore, hLong, hDigits⟩
    · exact .inr ⟨run, hAfter, hLong, hDigits⟩
  · rintro (hBefore | hAfter)
    · exact hBefore.mono (List.prefix_append _ _).isInfix
    · exact hAfter.mono (Text.infix_behind before c after)

theorem not_hasLongRun_of_isBlank (h : t.isBlank = true) : ¬ t.HasLongRun := by
  rintro ⟨run, hRun, hLong, hDigits⟩
  obtain ⟨c, hc⟩ := List.exists_mem_of_length_pos (Nat.zero_lt_of_lt hLong)
  have hNot : c ∉ t := Text.not_mem_of_isBlank h (Numeral.isBlank_of_isDigit (hDigits c hc))
  exact hNot (hRun.subset hc)

theorem not_hasLongRun_nil : ¬ Text.HasLongRun [] := not_hasLongRun_of_isBlank Text.isBlank_nil

theorem hasLongRun_cons_iff (hc : isDigit c = false) : Text.HasLongRun (c :: t) ↔ t.HasLongRun :=
  (hasLongRun_append_cons_iff hc).trans (or_iff_right not_hasLongRun_nil)

/-! ## Blanks, separators and braces -/

theorem isDigit_of_isBlank (h : isBlank c = true) : isDigit c = false := by
  cases hDigit : isDigit c with
  | false => rfl
  | true =>
    rw [Numeral.isBlank_of_isDigit hDigit] at h
    cases h

theorem hasLongRun_between_iff (hBefore : before.isBlank = true) (hAfter : after.isBlank = true) :
    (before ++ t ++ after).HasLongRun ↔ t.HasLongRun := by
  have hFront : (before ++ t).HasLongRun ↔ t.HasLongRun := by
    induction before with
    | nil => rfl
    | cons c rest ih =>
      obtain ⟨hc, hRest⟩ := List.forall_mem_cons.mp (Text.isBlank_iff.mp hBefore)
      rw [List.cons_append, hasLongRun_cons_iff (isDigit_of_isBlank hc)]
      exact ih (Text.isBlank_iff.mpr hRest)
  cases after with
  | nil => rw [List.append_nil, hFront]
  | cons c rest =>
    obtain ⟨hc, hRest⟩ := List.forall_mem_cons.mp (Text.isBlank_iff.mp hAfter)
    have hNot : ¬ Text.HasLongRun rest := not_hasLongRun_of_isBlank (Text.isBlank_iff.mpr hRest)
    rw [hasLongRun_append_cons_iff (isDigit_of_isBlank hc), or_iff_left hNot, hFront]

theorem hasLongRun_trim_iff : (Text.trim t).HasLongRun ↔ t.HasLongRun := by
  obtain ⟨before, after, hBefore, hAfter, hText⟩ := Text.exists_trim t
  conv_rhs => rw [hText]
  exact (hasLongRun_between_iff hBefore hAfter).symm

theorem not_hasLongRun_join {pieces : List Text} (hc : isDigit c = false)
    (h : ∀ piece ∈ pieces, ¬ piece.HasLongRun) : ¬ (Text.join [c] pieces).HasLongRun := by
  induction pieces with
  | nil => exact not_hasLongRun_nil
  | cons first rest ih =>
    obtain ⟨hFirst, hRest⟩ := List.forall_mem_cons.mp h
    cases rest with
    | nil => simpa [Text.join] using hFirst
    | cons second rest =>
      rw [Text.join_cons_cons, List.append_assoc, List.singleton_append,
        hasLongRun_append_cons_iff hc]
      exact not_or.mpr ⟨hFirst, ih hRest⟩

theorem hasLongRun_unbrace_iff : (unbrace t).HasLongRun ↔ t.HasLongRun := by
  rcases unbrace_cases t with hSame | hBraced
  · rw [hSame]
  · conv_rhs => rw [hBraced]
    rw [hasLongRun_cons_iff (by decide), hasLongRun_append_cons_iff (by decide),
      or_iff_left not_hasLongRun_nil]

/-! ## What is read -/

variable {what : Text} {line : Nat} {items : List Item}

theorem not_hasLongRun_of_readNumber {n : Nat} (h : readNumber what t = .ok n) :
    ¬ t.HasLongRun := by
  obtain ⟨-, hShort⟩ := readNumber_eq_ok_iff_spellsShort.mp h
  rw [← hasLongRun_trim_iff]
  exact not_hasLongRun_of_length hShort

theorem not_hasLongRun_of_readSpan {ends : Nat × Nat} (h : readSpan what t = .ok ends) :
    ¬ t.HasLongRun := by
  obtain ⟨first, last, hSplit, hFirst, hLast⟩ := readSpan_eq_ok_iff.mp h
  rw [append_of_splitOn hSplit, hasLongRun_append_cons_iff (by decide)]
  exact not_or.mpr ⟨not_hasLongRun_of_readNumber hFirst, not_hasLongRun_of_readNumber hLast⟩

theorem not_hasLongRun_of_readSpans
    (h : (Text.splitOn '|' t).mapM (readColumns line) = .ok items) : ¬ t.HasLongRun := by
  rw [← Text.join_splitOn '|' t]
  refine not_hasLongRun_join (by decide) fun piece hPiece => ?_
  obtain ⟨item, -, hItem⟩ := exists_of_forall₂ (mapM_eq_ok_iff.mp h) hPiece
  rw [readColumns_eq] at hItem
  obtain ⟨ends, hSpan, -⟩ := bind_eq_ok_iff.mp hItem
  exact not_hasLongRun_of_readSpan hSpan

theorem not_hasLongRun_of_readBlockLines (h : readBlock.readLines t = .ok items) :
    ¬ t.HasLongRun := by
  rw [readBlockLines_eq] at h
  split at h
  · obtain ⟨ends, hSpan, -⟩ := bind_eq_ok_iff.mp h
    exact not_hasLongRun_of_readSpan hSpan
  · obtain ⟨n, hNumber, -⟩ := bind_eq_ok_iff.mp h
    exact not_hasLongRun_of_readNumber hNumber

theorem not_hasLongRun_of_readBlock (h : readBlock t = .ok items) : ¬ t.HasLongRun := by
  cases hParts : columnParts? t with
  | none =>
    unfold readBlock at h
    rw [hParts] at h
    split at h
    · cases h
    · exact not_hasLongRun_of_readBlockLines h
  | some parts =>
    obtain ⟨before, after⟩ := parts
    obtain ⟨rfl, -⟩ := Text.cut_eq_some (columnParts?_eq_some.mp hParts).1
    rw [readBlock_of_columnParts hParts] at h
    obtain ⟨line, hLine, hSpans⟩ := bind_eq_ok_iff.mp h
    have hAfter := not_hasLongRun_of_readSpans hSpans
    rw [hasLongRun_unbrace_iff, hasLongRun_trim_iff] at hAfter
    rw [hasLongRun_append_cons_iff (by decide)]
    exact not_or.mpr ⟨not_hasLongRun_of_readNumber hLine, hAfter⟩

/-- A block is read exactly if the grammar has it and no number in it is too long to be read. -/
theorem readBlock_eq_ok_iff_blockText :
    readBlock t = .ok items ↔ BlockText Blanks t items ∧ ¬ t.HasLongRun := by
  constructor
  · intro h
    have hShort := not_hasLongRun_of_readBlock h
    exact ⟨(readBlock_eq_ok_iff hShort).mp h, hShort⟩
  · rintro ⟨hBlock, hShort⟩
    exact (readBlock_eq_ok_iff hShort).mpr hBlock

/-- Blanks around a block do not count. -/
theorem readBlock_trim_eq_ok_iff : readBlock (Text.trim t) = .ok items ↔ readBlock t = .ok items := by
  rw [readBlock_eq_ok_iff_blockText, readBlock_eq_ok_iff_blockText, hasLongRun_trim_iff]
  refine and_congr_left fun _ => ⟨fun h => ?_, fun h => ?_⟩
  · exact h.of_trim_eq (Text.trim_trim t)
  · exact h.of_trim_eq (Text.trim_trim t).symm

end Excerpt
