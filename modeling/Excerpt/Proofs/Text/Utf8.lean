import Excerpt.Proofs.Feed

/-!
# Text in UTF-8

What is written for a character is read as that character: one byte below 0x80, else a first byte
that says how many bytes there are and bytes that continue it. No code point is written longer than
it has to be, and none of them is a surrogate, so no byte is refused.

* `isSecond_iff`, `isSurrogate_iff`: the bytes that may stand behind the first.
* `feed_char`: the bytes of one character.
* `decode_encode`: the bytes of a text are read as the text.
-/

namespace Excerpt.Utf8

/-! ## Bytes by their numbers -/

variable {first second b : UInt8}

theorem isContinuation_iff : isContinuation b = true ↔ 128 ≤ b.toNat ∧ b.toNat ≤ 191 := by
  simp [isContinuation, UInt8.le_iff_toNat_le]

theorem isSecond_iff : isSecond first b = true ↔
    (128 ≤ b.toNat ∧ b.toNat ≤ 191) ∧ (first.toNat = 224 → 160 ≤ b.toNat) ∧
      (first.toNat = 240 → 144 ≤ b.toNat) ∧ (first.toNat = 244 → b.toNat ≤ 143) := by
  have hEq (n : UInt8) : (first == n) = true ↔ first.toNat = n.toNat := by
    rw [beq_iff_eq, UInt8.toNat_inj]
  unfold isSecond
  by_cases h224 : first.toNat = 224
  · rw [if_pos ((hEq 0xE0).mpr h224)]
    simp only [Bool.and_eq_true, decide_eq_true_eq, UInt8.le_iff_toNat_le, UInt8.reduceToNat]
    omega
  · rw [if_neg (mt (hEq 0xE0).mp h224)]
    by_cases h240 : first.toNat = 240
    · rw [if_pos ((hEq 0xF0).mpr h240)]
      simp only [Bool.and_eq_true, decide_eq_true_eq, UInt8.le_iff_toNat_le, UInt8.reduceToNat]
      omega
    · rw [if_neg (mt (hEq 0xF0).mp h240)]
      by_cases h244 : first.toNat = 244
      · rw [if_pos ((hEq 0xF4).mpr h244)]
        simp only [Bool.and_eq_true, decide_eq_true_eq, UInt8.le_iff_toNat_le, UInt8.reduceToNat]
        omega
      · rw [if_neg (mt (hEq 0xF4).mp h244), isContinuation_iff]
        omega

theorem isSurrogate_iff :
    isSurrogate first second = true ↔ first.toNat = 237 ∧ 160 ≤ second.toNat := by
  simp [isSurrogate, UInt8.le_iff_toNat_le, ← UInt8.toNat_inj]

theorem toNat_byte {n : Nat} (h : n < 256) : (UInt8.ofNat n).toNat = n := by
  rw [UInt8.toNat_ofNat']
  omega

/-! ## Single bytes -/

theorem effect_single {n : Nat} (h : n < 128) : effect [] (UInt8.ofNat n) = .complete n := by
  have hByte := toNat_byte (n := n) (by omega)
  have hLow : UInt8.ofNat n < 0x80 := by
    rw [UInt8.lt_iff_toNat_lt, hByte]
    exact h
  simp only [effect, if_pos hLow, hByte]

theorem effect_lead (h : 194 ≤ b.toNat ∧ b.toNat ≤ 244) : effect [] b = .hold := by
  have hHigh : ¬ b < 0x80 := by
    rw [UInt8.lt_iff_toNat_lt]
    exact Nat.not_lt_of_le (Nat.le_trans (by decide) h.1)
  have hLead : (0xC2 ≤ b && b ≤ 0xF4) = true := by
    simp only [Bool.and_eq_true, decide_eq_true_eq, UInt8.le_iff_toNat_le]
    exact h
  simp only [effect, if_neg hHigh, if_pos hLead]

theorem effect_second (h : isSecond first b = true) : effect [first] b =
    if first < 0xE0 then .complete ((first.toNat % 0x20) * 0x40 + low b) else .hold := by
  simp only [effect, h, Bool.not_true, Bool.false_eq_true, if_false]

theorem effect_third (hSurrogate : ¬ isSurrogate first second = true)
    (h : isContinuation b = true) : effect [first, second] b =
    if first < 0xF0 then
      .complete ((first.toNat % 0x10) * 0x1000 + low second * 0x40 + low b)
    else .hold := by
  simp only [effect, if_neg hSurrogate, h, Bool.not_true, Bool.false_eq_true, if_false]

theorem feed_hold {d : Decoder} (h : effect d.pending b = .hold) (bytes : Bytes) :
    feed d (b :: bytes) = feed ⟨d.taken + 1, d.pending ++ [b], d.text⟩ bytes := by
  rw [feed_cons]
  simp only [step, h]
  rfl

theorem feed_complete {d : Decoder} {code : Nat} (h : effect d.pending b = .complete code)
    (bytes : Bytes) :
    feed d (b :: bytes) = feed ⟨d.taken + 1, [], Char.ofNat code :: d.text⟩ bytes := by
  rw [feed_cons]
  simp only [step, h]
  rfl

/-! ## Characters -/

/-- A byte that continues a code point, with six of its bits. -/
def following (n : Nat) : UInt8 := UInt8.ofNat (n % 64 + 128)

theorem toNat_following (n : Nat) : (following n).toNat = n % 64 + 128 := toNat_byte (by omega)

theorem low_following (n : Nat) : low (following n) = n % 64 := by
  rw [low, toNat_following]
  omega

theorem isContinuation_following (n : Nat) : isContinuation (following n) = true := by
  rw [isContinuation_iff, toNat_following]
  omega

variable {n taken : Nat} {t : Text}

theorem feed_two (h : 128 ≤ n ∧ n ≤ 2047) :
    feed ⟨taken, [], t⟩ [UInt8.ofNat (n / 64 % 32 + 192), following n] =
      .ok ⟨taken + 2, [], Char.ofNat n :: t⟩ := by
  generalize hFirst : UInt8.ofNat (n / 64 % 32 + 192) = first
  have hNat : first.toNat = n / 64 % 32 + 192 := hFirst ▸ toNat_byte (by omega)
  have hSecond : isSecond first (following n) = true := by
    rw [isSecond_iff, toNat_following, hNat]
    omega
  have hTwo : first < 0xE0 := by
    change first.toNat < 224
    omega
  have hCode : first.toNat % 0x20 * 0x40 + low (following n) = n := by
    rw [low_following, hNat]
    omega
  have hEffect := effect_second hSecond
  rw [if_pos hTwo, hCode] at hEffect
  rw [feed_hold (effect_lead (by omega)), feed_complete hEffect]
  rfl

theorem feed_three (h : 2048 ≤ n ∧ n ≤ 65535) (hScalar : n < 55296 ∨ 57343 < n) :
    feed ⟨taken, [], t⟩ [UInt8.ofNat (n / 4096 % 16 + 224), following (n / 64), following n] =
      .ok ⟨taken + 3, [], Char.ofNat n :: t⟩ := by
  generalize hFirst : UInt8.ofNat (n / 4096 % 16 + 224) = first
  have hNat : first.toNat = n / 4096 % 16 + 224 := hFirst ▸ toNat_byte (by omega)
  have hSecond : isSecond first (following (n / 64)) = true := by
    rw [isSecond_iff, toNat_following, hNat]
    omega
  have hMore : ¬ first < 0xE0 := by
    change ¬ first.toNat < 224
    omega
  have hSurrogate : ¬ isSurrogate first (following (n / 64)) = true := by
    rw [isSurrogate_iff, toNat_following, hNat]
    omega
  have hThree : first < 0xF0 := by
    change first.toNat < 240
    omega
  have hCode : first.toNat % 0x10 * 0x1000 + low (following (n / 64)) * 0x40 +
      low (following n) = n := by
    rw [low_following, low_following, hNat]
    omega
  have hHold := effect_second hSecond
  rw [if_neg hMore] at hHold
  have hEffect := effect_third hSurrogate (isContinuation_following n)
  rw [if_pos hThree, hCode] at hEffect
  rw [feed_hold (effect_lead (by omega)), feed_hold hHold, feed_complete hEffect]
  rfl

theorem feed_four (h : 65536 ≤ n ∧ n < 1114112) :
    feed ⟨taken, [], t⟩ [UInt8.ofNat (n / 262144 % 8 + 240), following (n / 4096),
      following (n / 64), following n] = .ok ⟨taken + 4, [], Char.ofNat n :: t⟩ := by
  generalize hFirst : UInt8.ofNat (n / 262144 % 8 + 240) = first
  have hNat : first.toNat = n / 262144 % 8 + 240 := hFirst ▸ toNat_byte (by omega)
  have hSecond : isSecond first (following (n / 4096)) = true := by
    rw [isSecond_iff, toNat_following, hNat]
    omega
  have hMore : ¬ first < 0xE0 := by
    change ¬ first.toNat < 224
    omega
  have hSurrogate : ¬ isSurrogate first (following (n / 4096)) = true := by
    rw [isSurrogate_iff, hNat]
    omega
  have hFour : ¬ first < 0xF0 := by
    change ¬ first.toNat < 240
    omega
  have hCode : first.toNat % 0x08 * 0x40000 + low (following (n / 4096)) * 0x1000 +
      low (following (n / 64)) * 0x40 + low (following n) = n := by
    rw [low_following, low_following, low_following, hNat]
    omega
  have hHold := effect_second hSecond
  rw [if_neg hMore] at hHold
  have hThird := effect_third hSurrogate (isContinuation_following (n / 64))
  rw [if_neg hFour] at hThird
  have hEffect : effect [first, following (n / 4096), following (n / 64)] (following n) =
      .complete n := by
    simp only [effect, isContinuation_following, Bool.not_true, Bool.false_eq_true, if_false, hCode]
  rw [feed_hold (effect_lead (by omega)), feed_hold hHold, feed_hold hThird, feed_complete hEffect]
  rfl

theorem feed_char (c : Char) (taken : Nat) (t : Text) :
    ∃ taken', feed ⟨taken, [], t⟩ (String.utf8EncodeChar c) = .ok ⟨taken', [], c :: t⟩ := by
  have hValid : c.val.toNat < 55296 ∨ 57343 < c.val.toNat ∧ c.val.toNat < 1114112 := c.valid
  have hOf : Char.ofNat c.val.toNat = c := c.ofNat_toNat
  unfold String.utf8EncodeChar
  dsimp only
  generalize c.val.toNat = n at hValid hOf ⊢
  subst hOf
  by_cases hOne : n ≤ 127
  · refine ⟨taken + 1, ?_⟩
    rw [if_pos hOne, feed_complete (effect_single (by omega))]
    rfl
  · rw [if_neg hOne]
    by_cases hTwo : n ≤ 2047
    · refine ⟨taken + 2, ?_⟩
      rw [if_pos hTwo]
      exact feed_two ⟨by omega, hTwo⟩
    · rw [if_neg hTwo]
      by_cases hThree : n ≤ 65535
      · refine ⟨taken + 3, ?_⟩
        rw [if_pos hThree]
        exact feed_three ⟨by omega, hThree⟩ (by omega)
      · refine ⟨taken + 4, ?_⟩
        rw [if_neg hThree]
        exact feed_four ⟨by omega, by omega⟩

/-! ## Texts -/

theorem feed_encode (taken : Nat) (t u : Text) :
    ∃ taken', feed ⟨taken, [], u⟩ (encode t) = .ok ⟨taken', [], t.reverse ++ u⟩ := by
  induction t generalizing taken u with
  | nil => exact ⟨taken, rfl⟩
  | cons c rest ih =>
    obtain ⟨taken₁, hChar⟩ := feed_char c taken u
    obtain ⟨taken₂, hRest⟩ := ih taken₁ (c :: u)
    refine ⟨taken₂, ?_⟩
    have hEncode : encode (c :: rest) = String.utf8EncodeChar c ++ encode rest := rfl
    rw [hEncode, feed_append, hChar, List.reverse_cons, List.append_assoc]
    exact hRest

theorem decode_encode (t : Text) : decode (encode t) = .ok t := by
  obtain ⟨taken, hFeed⟩ := feed_encode 0 t []
  rw [List.append_nil] at hFeed
  exact decode_eq_ok_iff.mpr ⟨taken, hFeed⟩

end Excerpt.Utf8
