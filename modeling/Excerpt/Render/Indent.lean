import Excerpt.Fault

/-!
# Indentation

The indentation of a line is changed by spaces. Adding some leaves an empty line empty; taking
away stops at the first character that is no space. There is a limit to how many can be added.

* `shiftIndent_zero`: no change leaves the line.
* `shiftIndent_empty`: an empty line stays empty.
* `shiftIndent_neg`: taking away never fails.
-/

namespace Excerpt

/-- The number of spaces at the beginning. -/
def leadingSpaces (line : Text) : Nat := (line.takeWhile (· == ' ')).length

/-- The line with its indentation changed. -/
def shiftIndent (line : Text) (change : Int) : Except Fault Text :=
  if 0 < change then
    if line.isEmpty then .ok line
    else if Fault.sizeLimit < change then .error .sizeTooLarge
    else .ok (List.replicate change.toNat ' ' ++ line)
  else .ok (line.drop (min (leadingSpaces line) (-change).toNat))

theorem shiftIndent_zero (line : Text) : shiftIndent line 0 = .ok line := by
  simp [shiftIndent]

theorem shiftIndent_empty (change : Int) : shiftIndent [] change = .ok [] := by
  unfold shiftIndent
  split <;> simp

theorem shiftIndent_neg (line : Text) {change : Int} (h : change ≤ 0) :
    shiftIndent line change = .ok (line.drop (min (leadingSpaces line) (-change).toNat)) := by
  have hc : ¬ 0 < change := by omega
  simp [shiftIndent, hc]

end Excerpt
