import Excerpt.Text.Basic

/-!
# Blank characters

The characters that separate words and lines: the Unicode white space and the four
information separators. The zero width space and the byte order mark are not blank.

* `isBlank_of_isWhitespace`: every character that core calls white space is blank.
* `trimStart_trimStart`: trimming twice is trimming once.
-/

namespace Excerpt

/-- White space, or one of the separators U+001C to U+001F. -/
def isBlank (c : Char) : Bool :=
  let n := c.toNat
  (0x09 ≤ n && n ≤ 0x0D) || (0x1C ≤ n && n ≤ 0x20) || n == 0x85 || n == 0xA0 ||
    n == 0x1680 || (0x2000 ≤ n && n ≤ 0x200A) || n == 0x2028 || n == 0x2029 ||
    n == 0x202F || n == 0x205F || n == 0x3000

theorem isBlank_of_isWhitespace {c : Char} (h : c.isWhitespace = true) : isBlank c = true := by
  simp only [Char.isWhitespace, Bool.or_eq_true, decide_eq_true_eq] at h
  rcases h with ((rfl | rfl) | rfl) | rfl <;> decide

namespace Text

/-- The text without its leading blanks. -/
def trimStart (t : Text) : Text := t.dropWhile isBlank

/-- The text without its trailing blanks. -/
def trimEnd (t : Text) : Text := dropEndWhile isBlank t

/-- The text without the blanks at both ends. -/
def trim (t : Text) : Text := trimEnd (trimStart t)

/-- The leading blanks. -/
def indentation (t : Text) : Text := t.takeWhile isBlank

/-- The longest pieces of the text that hold no blank. -/
def words (t : Text) : List Text :=
  (splitOn ' ' (t.map fun c => if Excerpt.isBlank c then ' ' else c)).filter (!·.isEmpty)

/-- Whether the text holds nothing but blanks. -/
def isBlank (t : Text) : Bool := t.all Excerpt.isBlank

theorem indentation_append_trimStart (t : Text) : indentation t ++ trimStart t = t :=
  List.takeWhile_append_dropWhile

theorem trimStart_trimStart (t : Text) : trimStart (trimStart t) = trimStart t := by
  induction t with
  | nil => rfl
  | cons c rest ih =>
    by_cases h : Excerpt.isBlank c = true
    · simpa [trimStart, List.dropWhile_cons, h] using ih
    · simp [trimStart, h]

end Text

end Excerpt
