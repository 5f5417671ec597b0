import Excerpt.Text.Lines

/-!
# The lines of a text and of one below another

A text that ends with a line feed leaves a splitter with nothing in hand, so what stands below it
is split as if it stood alone. Whatever a splitter takes, what ends a line is not kept in it.

* `Text.lines_of_unbroken`: a text without an end of a line.
* `Text.lines_append_of_isEnded`: the lines of both texts, in order.
* `Text.not_break_of_mem_lines`, `Text.not_return_of_mem_lines`: no line holds an end of a line.
-/

namespace Excerpt

namespace LineSplitter

/-- The splitter with lines that were complete before its own. -/
def behind (done : List Text) (s : LineSplitter) : LineSplitter :=
  { s with complete := s.complete ++ done }

theorem close_behind (done : List Text) (s : LineSplitter) :
    (s.behind done).close = s.close.behind done := rfl

theorem take_behind (isBreak : Char → Bool) (done : List Text) (s : LineSplitter) (c : Char) :
    (s.behind done).take isBreak c = (s.take isBreak c).behind done := by
  unfold take
  split
  · rfl
  · split <;> rfl

theorem push_behind (isBreak : Char → Bool) (done : List Text) (s : LineSplitter) (c : Char) :
    (s.behind done).push isBreak c = (s.push isBreak c).behind done := by
  unfold push
  rw [close_behind, take_behind, take_behind]
  change (if s.afterReturn = true then _ else _) = _
  split
  · split <;> rfl
  · rfl

theorem foldl_push_behind (isBreak : Char → Bool) (done : List Text) (t : Text)
    (s : LineSplitter) :
    t.foldl (push isBreak) (s.behind done) = (t.foldl (push isBreak) s).behind done := by
  induction t generalizing s with
  | nil => rfl
  | cons c rest ih => rw [List.foldl_cons, List.foldl_cons, push_behind, ih]

theorem lines_behind (done : List Text) (s : LineSplitter) :
    (s.behind done).lines = done.reverse ++ s.lines := by
  simp [lines, behind]

theorem finish_behind (done : List Text) (s : LineSplitter) :
    (s.behind done).finish = done.reverse ++ s.finish := by
  unfold finish
  rw [close_behind, lines_behind, lines_behind]
  change (if (s.afterReturn || !s.current.isEmpty) = true then _ else _) = _
  split <;> rfl

/-- A line feed leaves nothing in hand. -/
theorem push_lineFeed {isBreak : Char → Bool} (h : isBreak '\n' = true) (s : LineSplitter) :
    s.push isBreak '\n' = s.close := by
  unfold push
  split
  · simp
  · simp [take, h]

/-- Whether no character that ends a line stands in a complete line or in hand. -/
structure HoldsNoBreak (isBreak : Char → Bool) (s : LineSplitter) : Prop where
  complete : ∀ line ∈ s.complete, ∀ c ∈ line, isBreak c = false
  current : ∀ c ∈ s.current, isBreak c = false

namespace HoldsNoBreak

variable {isBreak : Char → Bool} {s : LineSplitter}

theorem empty : ({} : LineSplitter).HoldsNoBreak isBreak := ⟨nofun, nofun⟩

theorem close (h : s.HoldsNoBreak isBreak) : s.close.HoldsNoBreak isBreak where
  complete := by
    refine List.forall_mem_cons.mpr ⟨fun c hc => ?_, h.complete⟩
    exact h.current c (List.mem_reverse.mp hc)
  current := nofun

theorem take (h : s.HoldsNoBreak isBreak) (c : Char) :
    (s.take isBreak c).HoldsNoBreak isBreak := by
  unfold LineSplitter.take
  split
  · exact ⟨h.complete, h.current⟩
  · split
    · exact h.close
    · rename_i hBreak
      refine ⟨h.complete, List.forall_mem_cons.mpr ⟨?_, h.current⟩⟩
      simpa using hBreak

theorem push (h : s.HoldsNoBreak isBreak) (c : Char) :
    (s.push isBreak c).HoldsNoBreak isBreak := by
  unfold LineSplitter.push
  split
  · split
    · exact h.close
    · exact h.close.take c
  · exact h.take c

theorem foldl_push (h : s.HoldsNoBreak isBreak) (t : Text) :
    (t.foldl (LineSplitter.push isBreak) s).HoldsNoBreak isBreak := by
  induction t generalizing s with
  | nil => exact h
  | cons c rest ih => exact ih (h.push c)

theorem finish (h : s.HoldsNoBreak isBreak) :
    ∀ line ∈ s.finish, ∀ c ∈ line, isBreak c = false := by
  intro line hLine
  unfold LineSplitter.finish at hLine
  split at hLine
  · exact h.close.complete line (List.mem_reverse.mp hLine)
  · exact h.complete line (List.mem_reverse.mp hLine)

end HoldsNoBreak

end LineSplitter

namespace Text

/-- Whether nothing or a line feed stands at the end. -/
def IsEnded (t : Text) : Prop := t = [] ∨ t.getLast? = some '\n'

instance (t : Text) : Decidable t.IsEnded := inferInstanceAs (Decidable (_ ∨ _))

theorem foldl_push_of_isEnded {isBreak : Char → Bool} (hBreak : isBreak '\n' = true) {t : Text}
    (h : t.IsEnded) : t.foldl (LineSplitter.push isBreak) {} =
      ({} : LineSplitter).behind (lines isBreak t).reverse := by
  rcases h with rfl | hLast
  · rfl
  · obtain ⟨front, rfl⟩ := List.getLast?_eq_some_iff.mp hLast
    unfold lines
    rw [List.foldl_append, List.foldl_cons, List.foldl_nil, LineSplitter.push_lineFeed hBreak]
    simp [LineSplitter.close, LineSplitter.finish, LineSplitter.lines, LineSplitter.behind]

/-- Characters that end no line are kept in hand. -/
theorem foldl_push_of_unbroken {isBreak : Char → Bool} {t : Text}
    (h : ∀ c ∈ t, isBreak c = false ∧ c ≠ '\r') (done : List Text) (current : Text) :
    t.foldl (LineSplitter.push isBreak) ⟨done, current, false⟩ =
      ⟨done, t.reverse ++ current, false⟩ := by
  induction t generalizing current with
  | nil => rfl
  | cons c rest ih =>
    obtain ⟨hBreak, hReturn⟩ := h c List.mem_cons_self
    rw [List.foldl_cons]
    have hOne : LineSplitter.push isBreak ⟨done, current, false⟩ c =
        ⟨done, c :: current, false⟩ := by
      simp [LineSplitter.push, LineSplitter.take, hBreak, hReturn]
    rw [hOne, ih fun c' hc' => h c' (List.mem_cons_of_mem _ hc')]
    simp

theorem lines_of_unbroken {isBreak : Char → Bool} {t : Text} (hNe : t ≠ [])
    (h : ∀ c ∈ t, isBreak c = false ∧ c ≠ '\r') : lines isBreak t = [t] := by
  unfold lines
  rw [foldl_push_of_unbroken h]
  simp [LineSplitter.finish, LineSplitter.close, LineSplitter.lines, hNe]

theorem not_break_of_mem_lines {isBreak : Char → Bool} {t line : Text}
    (h : line ∈ lines isBreak t) : ∀ c ∈ line, isBreak c = false :=
  (LineSplitter.HoldsNoBreak.empty.foldl_push t).finish line h

/-- A return ends its line wherever it stands, so it might as well be one of the other ends. -/
theorem not_return_of_mem_lines {isBreak : Char → Bool} {t line : Text}
    (h : line ∈ lines isBreak t) : '\r' ∉ line := by
  have hTake : LineSplitter.take isBreak = LineSplitter.take fun c => isBreak c || c == '\r' := by
    funext s c
    by_cases hReturn : c = '\r' <;> simp [LineSplitter.take, hReturn]
  have hPush : LineSplitter.push isBreak = LineSplitter.push fun c => isBreak c || c == '\r' := by
    funext s c
    unfold LineSplitter.push
    rw [hTake]
  unfold lines at h
  rw [hPush] at h
  intro hMem
  have hNone := not_break_of_mem_lines h '\r' hMem
  simp at hNone

/-- What stands behind complete lines is split as if it stood alone. -/
theorem finish_foldl_push_behind (isBreak : Char → Bool) (done : List Text) (t : Text) :
    (t.foldl (LineSplitter.push isBreak) (({} : LineSplitter).behind done)).finish =
      done.reverse ++ lines isBreak t := by
  rw [LineSplitter.foldl_push_behind, LineSplitter.finish_behind]
  rfl

theorem lines_append_of_isEnded {isBreak : Char → Bool} (hBreak : isBreak '\n' = true)
    {above : Text} (h : above.IsEnded) (t : Text) :
    lines isBreak (above ++ t) = lines isBreak above ++ lines isBreak t := by
  have hBehind : lines isBreak (above ++ t) =
      (t.foldl (LineSplitter.push isBreak) (({} : LineSplitter).behind
        (lines isBreak above).reverse)).finish := by
    rw [← foldl_push_of_isEnded hBreak h, ← List.foldl_append]
    rfl
  rw [hBehind, finish_foldl_push_behind, List.reverse_reverse]

end Text

end Excerpt
