import Excerpt.Text.Blank
import Excerpt.Text.Numeral
import Mathlib.Algebra.Group.Nat.Defs
import Mathlib.Data.List.Forall2

/-!
# Values of numerals

A numeral of so many digits is below that power of ten, and a number is read back from the digits
that it is written with.

* `isBlank_of_isDigit`: no digit of any script is blank.
* `value_lt`: the bound on the value of a numeral.
* `exists_digits_ofNat`: a number in digits has its own value.
-/

namespace Excerpt

namespace Numeral

/-! ## Digits -/

theorem mapM_eq_some_iff {α β : Type} {f : α → Option β} {xs : List α} {ys : List β} :
    xs.mapM f = some ys ↔ List.Forall₂ (fun a b => f a = some b) xs ys := by
  induction xs generalizing ys with
  | nil =>
    rw [List.mapM_nil, List.forall₂_nil_left_iff]
    exact ⟨fun h => (Option.some.inj h).symm, fun h => h ▸ rfl⟩
  | cons a rest ih =>
    rw [List.mapM_cons]
    constructor
    · intro h
      obtain ⟨b, hb, h⟩ := Option.bind_eq_some_iff.mp h
      obtain ⟨bs, hbs, h⟩ := Option.bind_eq_some_iff.mp h
      cases h
      exact .cons hb (ih.mp hbs)
    · intro h
      obtain ⟨b, bs, hb, hbs, rfl⟩ := List.forall₂_cons_left_iff.mp h
      simp [hb, ih.mpr hbs]

theorem digits?_eq_some_iff {t : Text} {digits : List Nat} :
    digits? t = some digits ↔
      t ≠ [] ∧ List.Forall₂ (fun c d => digitValue? c = some d) t digits := by
  unfold digits?
  rw [← mapM_eq_some_iff]
  cases t with
  | nil => simp
  | cons c rest => simp

theorem isDigit_of_digits? {t : Text} {digits : List Nat} (h : digits? t = some digits) {c : Char}
    (hc : c ∈ t) : isDigit c = true := by
  obtain ⟨-, hDigits⟩ := digits?_eq_some_iff.mp h
  induction hDigits with
  | nil => cases hc
  | cons hFirst hRest ih =>
    rcases List.mem_cons.mp hc with rfl | hc
    · simp [isDigit, hFirst]
    · exact ih (digits?_eq_some_iff.mpr ⟨List.ne_nil_of_mem hc, hRest⟩) hc

theorem digits?_cons_of_not_isDigit {c : Char} (h : isDigit c = false) (t : Text) :
    digits? (c :: t) = none := by
  cases hDigits : digits? (c :: t) with
  | none => rfl
  | some digits =>
    have hFirst := isDigit_of_digits? hDigits List.mem_cons_self
    rw [h] at hFirst
    cases hFirst

theorem isBlank_of_isDigit {c : Char} (h : isDigit c = true) : isBlank c = false := by
  have hScripts : ∀ base ∈ digitZeros, ∀ d < 10, isBlank (Char.ofNat (base + d)) = false := by
    decide +kernel
  obtain ⟨value, hValue⟩ := Option.isSome_iff_exists.mp h
  obtain ⟨base, hBase, hStep⟩ := Option.bind_eq_some_iff.mp hValue
  have hHigh : c.toNat < base + 10 := by simpa using List.find?_some hBase
  have hLow : base ≤ c.toNat := by
    by_contra hNot
    rw [if_neg hNot] at hStep
    cases hStep
  have hBlank := hScripts base (List.mem_of_find?_eq_some hBase) (c.toNat - base) (by omega)
  rwa [Nat.add_sub_of_le hLow, Char.ofNat_toNat] at hBlank

/-! ## Values -/

theorem foldl_value_lt {digits : List Nat} (h : ∀ d ∈ digits, d < 10) (n k : Nat)
    (hn : n < 10 ^ k) :
    digits.foldl (fun n digit => 10 * n + digit) n < 10 ^ (k + digits.length) := by
  induction digits generalizing n k with
  | nil => simpa using hn
  | cons d rest ih =>
    have hd := h d List.mem_cons_self
    have hNext : 10 * n + d < 10 ^ (k + 1) := by
      rw [Nat.pow_succ]
      omega
    have hRest := ih (fun d' hd' => h d' (List.mem_cons_of_mem _ hd')) (10 * n + d) (k + 1) hNext
    rw [List.foldl_cons, List.length_cons, ← Nat.add_assoc, Nat.add_right_comm]
    exact hRest

theorem value_lt {t : Text} {digits : List Nat} (h : digits? t = some digits) :
    value digits < 10 ^ digits.length := by
  have hTen : ∀ d ∈ digits, d < 10 := by
    obtain ⟨-, hDigits⟩ := digits?_eq_some_iff.mp h
    clear h
    induction hDigits with
    | nil => simp
    | cons hFirst _ ih =>
      intro d hd
      rcases List.mem_cons.mp hd with rfl | hd
      · exact digitValue_lt_ten hFirst
      · exact ih d hd
  have hLt := foldl_value_lt hTen 0 0 (by simp)
  rwa [Nat.zero_add] at hLt

/-! ## Numbers in digits -/

theorem ofNat_ne_nil (n : Nat) : ofNat n ≠ [] := Nat.toDigits_ne_nil

theorem bounds_of_mem_ofNat {n : Nat} {c : Char} (h : c ∈ ofNat n) :
    '0'.toNat ≤ c.toNat ∧ c.toNat ≤ '9'.toNat := by
  have hDigit := Nat.isDigit_of_mem_toDigits (by decide) (by decide) h
  rw [Char.isDigit, Bool.and_eq_true, decide_eq_true_eq, decide_eq_true_eq] at hDigit
  exact hDigit

theorem not_mem_ofNat {c : Char} (h : c.isDigit = false) {n : Nat} : c ∉ ofNat n := by
  intro hc
  have hDigit := Nat.isDigit_of_mem_toDigits (by decide) (by decide) hc
  rw [h] at hDigit
  cases hDigit

theorem isBlank_of_mem_ofNat {n : Nat} {c : Char} (h : c ∈ ofNat n) : isBlank c = false := by
  obtain ⟨hLow, hHigh⟩ := bounds_of_mem_ofNat h
  have hLow' : 48 ≤ c.toNat := hLow
  have hHigh' : c.toNat ≤ 57 := hHigh
  simp [isBlank]
  omega

theorem length_ofNat_le {n k : Nat} (hk : 0 < k) (h : n < 10 ^ k) : (ofNat n).length ≤ k :=
  (Nat.length_toDigits_le_iff (by decide) hk).mpr h

theorem exists_digits_ofNat (n : Nat) :
    ∃ digits, digits? (ofNat n) = some digits ∧ value digits = n := by
  have hValues : List.Forall₂ (fun c d => digitValue? c = some d) (ofNat n)
      ((ofNat n).map fun c => c.toNat - '0'.toNat) := by
    rw [List.forall₂_map_right_iff, List.forall₂_same]
    intro c hc
    obtain ⟨hLow, hHigh⟩ := bounds_of_mem_ofNat hc
    exact digitValue_ascii hLow hHigh
  refine ⟨_, digits?_eq_some_iff.mpr ⟨ofNat_ne_nil n, hValues⟩, ?_⟩
  rw [value, List.foldl_map]
  exact Nat.ofDigitChars_ten_toDigits

end Numeral

end Excerpt
