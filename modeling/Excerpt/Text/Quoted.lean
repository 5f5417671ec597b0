import Excerpt.Text.Basic
import Excerpt.Text.Printable

/-!
# Quoted texts

Messages show a text between quotes, single ones unless it holds those and no double ones. The
quote, the backslash and everything that is not printable is escaped.

* `quoted_of_plain`: a text without anything to escape stands between the quotes as it is.
-/

namespace Excerpt

namespace Quoted

def single : Char := '\x27'

def double : Char := '\x22'

def backslash : Char := '\x5c'

/-- The quote that is put around the text. -/
def quoteOf (t : Text) : Char :=
  if t.contains single && !t.contains double then double else single

/-- A number in hexadecimal digits, filled up with zeros to the width. -/
def hex (width n : Nat) : Text :=
  let digits := Nat.toDigits 16 n
  List.replicate (width - digits.length) '0' ++ digits

/-- How a character is written between the quotes. -/
def escape (quote c : Char) : Text :=
  if c = quote || c = backslash then [backslash, c]
  else if c = '\t' then [backslash, 't']
  else if c = '\n' then [backslash, 'n']
  else if c = '\r' then [backslash, 'r']
  else if isPrintable c then [c]
  else if c.toNat < 0x100 then backslash :: 'x' :: hex 2 c.toNat
  else if c.toNat < 0x10000 then backslash :: 'u' :: hex 4 c.toNat
  else backslash :: 'U' :: hex 8 c.toNat

end Quoted

namespace Text

/-- The text between quotes. -/
def quoted (t : Text) : Text :=
  let quote := Quoted.quoteOf t
  quote :: t.flatMap (Quoted.escape quote) ++ [quote]

/-- The characters that are written as they are in every quoted text. -/
def IsPlain (c : Char) : Prop :=
  isPrintable c = true ∧ c ≠ Quoted.single ∧ c ≠ Quoted.double ∧ c ≠ Quoted.backslash ∧
    c ≠ '\t' ∧ c ≠ '\n' ∧ c ≠ '\r'

theorem escape_of_plain {quote c : Char} (hq : quote = Quoted.single ∨ quote = Quoted.double)
    (h : IsPlain c) : Quoted.escape quote c = [c] := by
  obtain ⟨hp, hs, hd, hb, ht, hn, hr⟩ := h
  have hc : c ≠ quote := by
    rcases hq with rfl | rfl
    · exact hs
    · exact hd
  simp [Quoted.escape, hc, hb, ht, hn, hr, hp]

theorem quoted_of_plain {t : Text} (h : ∀ c ∈ t, IsPlain c) :
    quoted t = Quoted.single :: t ++ [Quoted.single] := by
  have hquote : Quoted.quoteOf t = Quoted.single := by
    have hno : t.contains Quoted.single = false := by
      simpa using fun hm => (h _ hm).2.1 rfl
    rw [Quoted.quoteOf, hno]
    rfl
  have hbody : t.flatMap (Quoted.escape Quoted.single) = t := by
    clear hquote
    induction t with
    | nil => rfl
    | cons c rest ih =>
      rw [List.flatMap_cons, escape_of_plain (.inl rfl) (h c (by simp)),
        ih (fun d hd => h d (List.mem_cons_of_mem _ hd))]
      rfl
  simp [quoted, hquote, hbody]

end Text

end Excerpt
