import Excerpt.Text.Digit

/-!
# Numerals

A numeral is one or more decimal digits, of any script and mixed freely, the first the highest.
Numbers are written with the digits of ASCII and without leading zeros.

* `digits?_eq_some`: a numeral has a digit for each of its characters.
-/

namespace Excerpt

namespace Numeral

/-- The digits of a numeral, if the text is one. -/
def digits? (t : Text) : Option (List Nat) :=
  if t.isEmpty then none else t.mapM digitValue?

/-- The number that the digits stand for. -/
def value (digits : List Nat) : Nat :=
  digits.foldl (fun n digit => 10 * n + digit) 0

/-- A number in digits of ASCII. -/
def ofNat (n : Nat) : Text := Nat.toDigits 10 n

theorem digits?_nil : digits? [] = none := rfl

theorem length_of_mapM_eq_some {α β : Type} {f : α → Option β} {xs : List α} {ys : List β}
    (h : xs.mapM f = some ys) : ys.length = xs.length := by
  induction xs generalizing ys with
  | nil =>
    cases h
    rfl
  | cons x rest ih =>
    rw [List.mapM_cons] at h
    cases hx : f x with
    | none => simp [hx] at h
    | some y =>
      cases hr : rest.mapM f with
      | none => simp [hx, hr] at h
      | some zs =>
        simp [hx, hr] at h
        simp [← h, ih hr]

theorem digits?_eq_some {t : Text} {digits : List Nat} (h : digits? t = some digits) :
    digits.length = t.length ∧ t ≠ [] := by
  unfold digits? at h
  split at h
  · cases h
  · rename_i hne
    exact ⟨length_of_mapM_eq_some h, by simpa using hne⟩

end Numeral

end Excerpt
