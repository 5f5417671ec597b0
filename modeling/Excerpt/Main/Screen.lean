import Excerpt.Text.Basic
import Excerpt.Main.Columns

/-!
# What a screen shows

A text is printed without the characters that move the cursor, each tab is a space and moves on
from there to a column that is a multiple of eight, and a line feed ends the whole.

* `printed_of_plain`: a text without such characters is printed as it is.
* `not_isCursorMove_of_mem_printed`: nothing that is printed moves the cursor.
-/

namespace Excerpt.Screen

/-- The width of a tab. -/
def tabWidth : Nat := 8

/-- The bell, the backspace, the vertical tab, the form feed and the carriage return. -/
def isCursorMove (c : Char) : Bool :=
  c == '\x07' || c == '\x08' || c == '\x0b' || c == '\x0c' || c == '\r'

/-- The spaces from a column to the next that is a multiple of the width of a tab. -/
def spacesToTab (column : Nat) : Nat := (tabWidth - column % tabWidth) % tabWidth

/-- The text with spaces in the place of tabs, from the given cursor on. What stands before a tab
is measured without regard to what stands behind it. -/
def expandTabs (cursor : Cursor) : Text → Text
  | [] => []
  | c :: rest =>
    if c = '\t' then
      let column := (cursor.after ' ').column
      List.replicate (1 + spacesToTab column) ' ' ++
        expandTabs { column := column + spacesToTab column } rest
    else if c = '\n' then c :: expandTabs {} rest
    else c :: expandTabs (cursor.after c) rest

/-- What is printed of a text. -/
def printed (t : Text) : Text := expandTabs {} (t.filter fun c => !isCursorMove c) ++ ['\n']

/-! ## Laws -/

theorem expandTabs_of_no_tab {t : Text} (h : '\t' ∉ t) (cursor : Cursor) :
    expandTabs cursor t = t := by
  induction t generalizing cursor with
  | nil => rfl
  | cons c rest ih =>
    have hRest : '\t' ∉ rest := fun hm => h (List.mem_cons_of_mem _ hm)
    have hc : c ≠ '\t' := fun hEq => h (by simp [hEq])
    unfold expandTabs
    simp [hc, ih hRest]

theorem printed_of_plain {t : Text} (h : ∀ c ∈ t, isCursorMove c = false ∧ c ≠ '\t') :
    printed t = t ++ ['\n'] := by
  have hFilter : (t.filter fun c => !isCursorMove c) = t :=
    List.filter_eq_self.mpr fun c hc => by simp [(h c hc).1]
  rw [printed, hFilter, expandTabs_of_no_tab fun hm => (h _ hm).2 rfl]

theorem mem_expandTabs {cursor : Cursor} {t : Text} {c : Char} (h : c ∈ expandTabs cursor t) :
    c = ' ' ∨ c ∈ t := by
  induction t generalizing cursor with
  | nil => cases h
  | cons d rest ih =>
    unfold expandTabs at h
    split at h
    · rcases List.mem_append.mp h with h | h
      · exact .inl (List.eq_of_mem_replicate h)
      · exact (ih h).imp_right (List.mem_cons_of_mem _)
    · split at h <;>
      · rcases List.mem_cons.mp h with h | h
        · exact .inr (h ▸ List.mem_cons_self)
        · exact (ih h).imp_right (List.mem_cons_of_mem _)

theorem not_isCursorMove_of_mem_printed {t : Text} {c : Char} (h : c ∈ printed t) :
    isCursorMove c = false := by
  rcases List.mem_append.mp h with h | h
  · rcases mem_expandTabs h with rfl | h
    · decide
    · simpa using (List.mem_filter.mp h).2
  · rw [List.mem_singleton.mp h]
    decide

end Excerpt.Screen
