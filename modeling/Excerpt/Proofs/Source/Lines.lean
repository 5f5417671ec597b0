import Excerpt.Proofs.Lines

/-!
# The lines of a source file

A line of a source file ends with a line feed, with a return and a line feed, or with a return
that no line feed follows; only the last line may be without an end. That is how a splitter takes
the text apart, so every text has lines, and no other ones.

* `SourceLines.exists_lines`: every text has lines.
* `SourceLines.lines_eq`: they are what a splitter makes of it.
* `sourceLines_iff`: both.
-/

namespace Excerpt

/-- Whether no line ends inside the text. -/
def Text.IsUnbroken (t : Text) : Prop := '\n' ∉ t ∧ '\r' ∉ t

/-- Whether the first text ends a line in front of the second one. -/
def Text.IsLineEnd (ending behind : Text) : Prop :=
  ending = ['\n'] ∨ ending = ['\r', '\n'] ∨ ending = ['\r'] ∧ behind.head? ≠ some '\n'

/-- The text of a source file has the lines, which are given without their ends. -/
inductive SourceLines : Text → List Text → Prop
  | none : SourceLines [] []
  | last {line : Text} (hNe : line ≠ []) (hLine : line.IsUnbroken) : SourceLines line [line]
  | ended {line ending behind : Text} {lines : List Text} (hLine : line.IsUnbroken)
      (hEnd : ending.IsLineEnd behind) (hBehind : SourceLines behind lines) :
      SourceLines (line ++ (ending ++ behind)) (line :: lines)

namespace Text

theorem IsUnbroken.not_isSourceBreak {line : Text} (h : line.IsUnbroken) :
    ∀ c ∈ line, isSourceBreak c = false ∧ c ≠ '\r' := by
  intro c hc
  refine ⟨beq_eq_false_iff_ne.mpr ?_, ?_⟩
  · rintro rfl
    exact h.1 hc
  · rintro rfl
    exact h.2 hc

/-- Whether the first text ends a line, and it is known by the second one: of a return, only the next
character tells whether it ends the line alone. -/
def IsKnownEnd (ending behind : Text) : Prop :=
  ending.IsLineEnd behind ∧ (ending = ['\r'] → behind ≠ [])

/-- An end of a line that is known leaves the splitter with the line complete and nothing in hand, as
far as what follows is concerned. -/
theorem foldl_of_isKnownEnd {ending behind : Text} (h : ending.IsKnownEnd behind)
    (current : Text) :
    (ending ++ behind).foldl (LineSplitter.push isSourceBreak) ⟨[], current, false⟩ =
      behind.foldl (LineSplitter.push isSourceBreak)
        (({} : LineSplitter).behind [current.reverse]) := by
  obtain ⟨rfl | rfl | ⟨rfl, hHead⟩, hKnown⟩ := h
  · rfl
  · rfl
  · obtain ⟨c, rest, rfl⟩ := List.exists_cons_of_ne_nil (hKnown rfl)
    have hFeed : c ≠ '\n' := fun h => hHead (congrArg some h)
    have hPush : LineSplitter.push isSourceBreak ⟨[], current, true⟩ c =
        LineSplitter.push isSourceBreak (({} : LineSplitter).behind [current.reverse]) c := by
      simp [LineSplitter.push, LineSplitter.behind, LineSplitter.close, hFeed]
    have hReturn : LineSplitter.push isSourceBreak ⟨[], current, false⟩ '\r' =
        ⟨[], current, true⟩ := rfl
    rw [List.singleton_append, List.foldl_cons, List.foldl_cons, List.foldl_cons, hReturn, hPush]

/-- At the end of the text, every end of a line is known. -/
theorem finish_of_isLineEnd {ending behind : Text} (h : ending.IsLineEnd behind)
    (current : Text) :
    ((ending ++ behind).foldl (LineSplitter.push isSourceBreak) ⟨[], current, false⟩).finish =
      (behind.foldl (LineSplitter.push isSourceBreak)
        (({} : LineSplitter).behind [current.reverse])).finish := by
  by_cases hAlone : ending = ['\r'] ∧ behind = []
  · obtain ⟨rfl, rfl⟩ := hAlone
    rfl
  · rw [foldl_of_isKnownEnd ⟨h, fun hReturn hNil => hAlone ⟨hReturn, hNil⟩⟩]

theorem IsLineEnd.length_pos {ending behind : Text} (h : ending.IsLineEnd behind) :
    0 < ending.length := by
  rcases h with rfl | rfl | ⟨rfl, -⟩
  · decide
  · decide
  · decide

/-- No line ends in a text, or a first one does. -/
theorem isUnbroken_or_ended (t : Text) : t.IsUnbroken ∨ ∃ line ending behind : Text,
    line.IsUnbroken ∧ ending.IsLineEnd behind ∧ t = line ++ (ending ++ behind) := by
  have hNone : Text.IsUnbroken [] := ⟨by simp, by simp⟩
  induction t with
  | nil => exact .inl hNone
  | cons c rest ih =>
    by_cases hFeed : c = '\n'
    · subst hFeed
      exact .inr ⟨[], ['\n'], rest, hNone, .inl rfl, rfl⟩
    by_cases hReturn : c = '\r'
    · subst hReturn
      by_cases hHead : rest.head? = some '\n'
      · obtain ⟨behind, rfl⟩ := List.head?_eq_some_iff.mp hHead
        exact .inr ⟨[], ['\r', '\n'], behind, hNone, .inr (.inl rfl), rfl⟩
      · exact .inr ⟨[], ['\r'], rest, hNone, .inr (.inr ⟨rfl, hHead⟩), rfl⟩
    have hFront {line : Text} (h : line.IsUnbroken) : Text.IsUnbroken (c :: line) :=
      ⟨List.not_mem_cons_of_ne_of_not_mem (Ne.symm hFeed) h.1,
        List.not_mem_cons_of_ne_of_not_mem (Ne.symm hReturn) h.2⟩
    rcases ih with hLine | ⟨line, ending, behind, hLine, hEnd, rfl⟩
    · exact .inl (hFront hLine)
    · exact .inr ⟨c :: line, ending, behind, hFront hLine, hEnd, rfl⟩

theorem lines_ended {line ending behind : Text} (hLine : line.IsUnbroken)
    (hEnd : ending.IsLineEnd behind) :
    lines isSourceBreak (line ++ (ending ++ behind)) = line :: lines isSourceBreak behind := by
  have hHand : line.foldl (LineSplitter.push isSourceBreak) {} = ⟨[], line.reverse, false⟩ := by
    have hKept := foldl_push_of_unbroken hLine.not_isSourceBreak [] []
    rwa [List.append_nil] at hKept
  have hBehind := finish_foldl_push_behind isSourceBreak [line] behind
  unfold lines at hBehind ⊢
  rw [List.foldl_append, hHand, finish_of_isLineEnd hEnd, List.reverse_reverse, hBehind]
  rfl

end Text

namespace SourceLines

variable {t : Text} {lines : List Text}

theorem lines_eq (h : SourceLines t lines) : Text.lines isSourceBreak t = lines := by
  induction h with
  | none => rfl
  | last hNe hLine => exact Text.lines_of_unbroken hNe hLine.not_isSourceBreak
  | ended hLine hEnd _ ih => rw [Text.lines_ended hLine hEnd, ih]

theorem exists_lines (t : Text) : ∃ lines, SourceLines t lines := by
  induction hLength : t.length using Nat.strongRecOn generalizing t with
  | ind length ih =>
    rcases Text.isUnbroken_or_ended t with hLine | ⟨line, ending, behind, hLine, hEnd, rfl⟩
    · by_cases hNe : t = []
      · exact ⟨[], hNe ▸ .none⟩
      · exact ⟨[t], .last hNe hLine⟩
    · have hPos := hEnd.length_pos
      have hShorter : behind.length < length := by
        rw [← hLength, List.length_append, List.length_append]
        omega
      obtain ⟨lines, hBehind⟩ := ih behind.length hShorter behind rfl
      exact ⟨line :: lines, .ended hLine hEnd hBehind⟩

end SourceLines

/-- The lines of a text are those that a splitter makes of it. -/
theorem sourceLines_iff {t : Text} {lines : List Text} :
    SourceLines t lines ↔ Text.lines isSourceBreak t = lines := by
  refine ⟨SourceLines.lines_eq, ?_⟩
  rintro rfl
  obtain ⟨lines, h⟩ := SourceLines.exists_lines t
  exact h.lines_eq.symm ▸ h

end Excerpt
