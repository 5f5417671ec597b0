import Excerpt.Fault.Incident
import Excerpt.Proofs.Lines
import Excerpt.Proofs.Text.Pieces

/-!
# The first line of a text

A line that has ended, if only by a return, is never taken back, so the first line of a text is what
stands in front of the first character that ends a line. All such characters are blank: what is left
of a text without the blanks around it does not begin with one, and its first line is not blank.

* `Text.head?_lines`: the first line that a splitter gives.
* `Text.firstLine_ne_nil`: the first line of a text that is not blank.
* `Incidents.firstLine?_eq`: the line that is shown of a failure.
-/

namespace Excerpt

/-- Whether the character ends a line, as a return always does. -/
def Text.endsLine (isBreak : Char → Bool) (c : Char) : Bool := isBreak c || c == '\r'

namespace LineSplitter

/-- The lines that have ended, the last of them perhaps by a return. -/
def ended (s : LineSplitter) : List Text := if s.afterReturn then s.close.lines else s.lines

theorem lines_prefix_ended (s : LineSplitter) : s.lines <+: s.ended := by
  unfold ended
  split
  · exact lines_close s ▸ List.prefix_append _ _
  · exact List.prefix_rfl

/-- What had ended before a character was taken has ended behind it. -/
theorem lines_prefix_ended_push (isBreak : Char → Bool) (s : LineSplitter) (c : Char) :
    s.lines <+: (s.push isBreak c).ended := by
  have hLines := push_lines_prefix isBreak s c
  exact hLines.trans (lines_prefix_ended _)

theorem ended_prefix_push (isBreak : Char → Bool) (s : LineSplitter) (c : Char) :
    s.ended <+: (s.push isBreak c).ended := by
  unfold ended
  split
  · -- a return that no line feed follows has ended its line before the character is taken
    rename_i hReturn
    have hPush : s.push isBreak c = s.close ∨ s.push isBreak c = s.close.push isBreak c := by
      unfold push
      rw [if_pos hReturn]
      split
      · exact .inl rfl
      · exact .inr rfl
    rcases hPush with hPush | hPush
    · rw [hPush]
      exact lines_prefix_ended _
    · rw [hPush]
      exact lines_prefix_ended_push isBreak s.close c
  · exact lines_prefix_ended_push isBreak s c

theorem ended_prefix_foldl_push (isBreak : Char → Bool) (t : Text) (s : LineSplitter) :
    s.ended <+: (t.foldl (push isBreak) s).ended := by
  induction t generalizing s with
  | nil => exact List.prefix_rfl
  | cons c rest ih => exact (ended_prefix_push isBreak s c).trans (ih _)

theorem ended_prefix_finish (s : LineSplitter) : s.ended <+: s.finish := by
  unfold ended finish
  cases s.afterReturn with
  | true => exact List.prefix_rfl
  | false =>
    rw [if_neg Bool.false_ne_true]
    split
    · exact lines_close s ▸ List.prefix_append _ _
    · exact List.prefix_rfl

/-- What has ended is among the lines in the end, and in front of all others. -/
theorem ended_prefix_finish_foldl (isBreak : Char → Bool) (t : Text) (s : LineSplitter) :
    s.ended <+: (t.foldl (push isBreak) s).finish :=
  (ended_prefix_foldl_push isBreak t s).trans (ended_prefix_finish _)

theorem ended_push_of_endsLine {isBreak : Char → Bool} {c : Char}
    (h : Text.endsLine isBreak c = true) (current : Text) :
    (push isBreak ⟨[], current, false⟩ c).ended = [current.reverse] := by
  by_cases hReturn : c = '\r'
  · simp [push, take, ended, close, lines, hReturn]
  · have hBreak : isBreak c = true := by simpa [Text.endsLine, hReturn] using h
    simp [push, take, ended, close, lines, hReturn, hBreak]

end LineSplitter

namespace Text

theorem eq_false_of_dropWhile {p : Char → Bool} {t rest : Text} {c : Char}
    (h : t.dropWhile p = c :: rest) : p c = false := by
  have hNot := List.head?_dropWhile_not p t
  rw [h] at hNot
  simpa using hNot

theorem head?_lines (isBreak : Char → Bool) {t : Text} (hNe : t ≠ []) :
    (lines isBreak t).head? = some (t.takeWhile fun c => !endsLine isBreak c) := by
  have hSplit := List.takeWhile_append_dropWhile (p := fun c => !endsLine isBreak c) (l := t)
  have hFront : ∀ c ∈ t.takeWhile fun c => !endsLine isBreak c, isBreak c = false ∧ c ≠ '\r' := by
    intro c hc
    simpa [endsLine] using List.mem_takeWhile_imp hc
  generalize t.takeWhile (fun c => !endsLine isBreak c) = front at hSplit hFront
  cases hRest : t.dropWhile fun c => !endsLine isBreak c with
  | nil =>
    rw [hRest, List.append_nil] at hSplit
    rw [← hSplit] at hNe ⊢
    rw [lines_of_unbroken hNe hFront]
    rfl
  | cons c rest =>
    have hEnds : endsLine isBreak c = true := by simpa using eq_false_of_dropWhile hRest
    obtain ⟨more, hMore⟩ := LineSplitter.ended_prefix_finish_foldl isBreak rest
      (LineSplitter.push isBreak ⟨[], front.reverse, false⟩ c)
    rw [LineSplitter.ended_push_of_endsLine hEnds, List.reverse_reverse] at hMore
    rw [← hSplit, hRest, lines, List.foldl_append, List.foldl_cons, foldl_push_of_unbroken hFront,
      List.append_nil, ← hMore]
    rfl

/-! ## Texts that are not blank -/

theorem isBlank_of_endsLine {c : Char} (h : endsLine isDocumentBreak c = true) :
    Excerpt.isBlank c = true := by
  have hReturn : '\r'.toNat = 13 := rfl
  simp only [endsLine, isDocumentBreak, Bool.or_eq_true, Bool.and_eq_true, decide_eq_true_eq,
    beq_iff_eq] at h
  simp only [Excerpt.isBlank, Bool.or_eq_true, Bool.and_eq_true, decide_eq_true_eq, beq_iff_eq]
  rcases h with h | rfl
  · omega
  · omega

/-- The first line of a text, both without the blanks around them. -/
def firstLine (t : Text) : Text := trim (t.trim.takeWhile fun c => !endsLine isDocumentBreak c)

variable {t : Text}

/-- Without the blanks around it, a text begins with a character that is no blank. -/
theorem exists_trim_eq_cons (h : t.isBlank = false) :
    ∃ c rest, t.trim = c :: rest ∧ Excerpt.isBlank c = false := by
  cases hRest : t.dropWhile Excerpt.isBlank with
  | nil =>
    have hBlank : t.isBlank = true := trimStart_eq_nil_iff.mp hRest
    cases h.symm.trans hBlank
  | cons c rest =>
    have hc : Excerpt.isBlank c = false := eq_false_of_dropWhile hRest
    refine ⟨c, trimEnd rest, ?_, hc⟩
    unfold trim trimStart
    rw [hRest]
    exact trimEnd_append_cons hc [] rest

theorem firstLine_ne_nil (h : t.isBlank = false) : t.firstLine ≠ [] := by
  obtain ⟨c, rest, hTrim, hc⟩ := exists_trim_eq_cons h
  have hEnds : endsLine isDocumentBreak c = false := by
    rw [← Bool.not_eq_true]
    intro hEnds
    cases hc.symm.trans (isBlank_of_endsLine hEnds)
  unfold firstLine
  rw [hTrim, List.takeWhile_cons_of_pos (by simpa using hEnds)]
  intro hEmpty
  cases (trim_append_cons hc [] _).symm.trans hEmpty

end Text

theorem Incidents.firstLine?_eq (t : Text) :
    firstLine? t = if t.isBlank then none else some t.firstLine := by
  cases hBlank : t.isBlank with
  | true =>
    unfold firstLine?
    rw [Text.trim_eq_nil_iff.mpr hBlank, Text.lines_nil]
    rfl
  | false =>
    have hLine := Text.firstLine_ne_nil hBlank
    obtain ⟨c, rest, hTrim, -⟩ := Text.exists_trim_eq_cons hBlank
    have hHead := Text.head?_lines isDocumentBreak (t := t.trim) (by simp [hTrim])
    obtain ⟨more, hLines⟩ := List.head?_eq_some_iff.mp hHead
    unfold firstLine?
    rw [hLines]
    change (if t.firstLine.isEmpty then none else some t.firstLine) = _
    rw [if_neg (by simpa using hLine), if_neg Bool.false_ne_true]

end Excerpt
