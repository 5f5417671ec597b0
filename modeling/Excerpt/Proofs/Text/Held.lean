import Excerpt.Proofs.Outcome
import Excerpt.Proofs.Text.Utf8

/-!
# Incomplete characters

A decoder that has refused no byte has read a text, and what it holds is the front of a character
that is not complete. There is one exception: the first two bytes of a surrogate, which is no
character, are held like those of a character, and refused with the next byte.

* `Begun.continues`: what one byte does to the bytes that are held.
* `feed_eq_ok_iff`: what a decoder has read and holds.
* `IsReadable.front`: what stands in front of bytes that can be read can be read.
* `decode_eq_ok_iff_encode`: what can be read is the text in UTF-8.
-/

namespace Excerpt.Utf8

/-- Whether the bytes are the front of a character, and not all of it. -/
def IsPart (held : Bytes) : Prop :=
  ∃ c more, more ≠ [] ∧ String.utf8EncodeChar c = held ++ more

/-- Whether the bytes are the first two of a surrogate. -/
def IsHalfSurrogate (held : Bytes) : Prop := ∃ b, held = [0xED, b] ∧ 0xA0 ≤ b ∧ b ≤ 0xBF

/-- Whether a decoder holds the bytes until the next one. -/
def IsHeld (held : Bytes) : Prop := IsPart held ∨ IsHalfSurrogate held

theorem encode_append (t u : Text) : encode (t ++ u) = encode t ++ encode u :=
  List.flatMap_append

theorem encode_singleton (c : Char) : encode [c] = String.utf8EncodeChar c :=
  List.flatMap_singleton _ _

/-! ## Bytes that begin a character -/

/-- Bytes behind which more are expected: the first says how many, and each stands in its bounds. -/
inductive Begun : Bytes → Prop
  | none : Begun []
  | one {first : UInt8} (hFirst : 194 ≤ first.toNat ∧ first.toNat ≤ 244) : Begun [first]
  | two {first second : UInt8} (hFirst : 224 ≤ first.toNat ∧ first.toNat ≤ 244)
      (hSecond : isSecond first second = true) : Begun [first, second]
  | three {first second third : UInt8} (hFirst : 240 ≤ first.toNat ∧ first.toNat ≤ 244)
      (hSecond : isSecond first second = true) (hThird : isContinuation third = true) :
      Begun [first, second, third]

theorem ofNat_eq {n : Nat} {b : UInt8} (h : n = b.toNat) : UInt8.ofNat n = b := by
  rw [h, UInt8.ofNat_toNat]

theorem following_eq {n : Nat} {b : UInt8} (h : n % 64 + 128 = b.toNat) : following n = b :=
  ofNat_eq h

theorem low_add {b : UInt8} (h : 128 ≤ b.toNat ∧ b.toNat ≤ 191) : low b + 128 = b.toNat := by
  unfold low
  omega

/-- What is written for a character, by the number of its code point. -/
theorem encodeChar_ofNat {n : Nat} (h : n < 55296 ∨ 57343 < n ∧ n < 1114112) :
    String.utf8EncodeChar (Char.ofNat n) =
      if n ≤ 127 then [UInt8.ofNat n]
      else if n ≤ 2047 then [UInt8.ofNat (n / 64 % 32 + 192), following n]
      else if n ≤ 65535 then
        [UInt8.ofNat (n / 4096 % 16 + 224), following (n / 64), following n]
      else [UInt8.ofNat (n / 262144 % 8 + 240), following (n / 4096), following (n / 64),
        following n] := by
  have hNat : (Char.ofNat n).val.toNat = n := by
    have hValid : n.isValidChar := h
    rw [Char.ofNat, dif_pos hValid]
    rfl
  unfold String.utf8EncodeChar
  dsimp only
  rw [hNat]
  rfl

/-- Whether a byte behind those that are held is held too or completes a character, unless it is
refused. -/
def Continues (pending : Bytes) (b : UInt8) : Prop :=
  match effect pending b with
  | .hold => Begun (pending ++ [b])
  | .complete code => String.utf8EncodeChar (Char.ofNat code) = pending ++ [b]
  | .refuse _ _ => True

variable {first second third b : UInt8}

theorem continues_none (b : UInt8) : Continues [] b := by
  unfold Continues effect
  dsimp only
  by_cases hLow : b < 0x80
  · rw [if_pos hLow]
    have hByte : b.toNat < 128 := UInt8.lt_iff_toNat_lt.mp hLow
    dsimp only
    rw [encodeChar_ofNat (by omega), if_pos (by omega), ofNat_eq rfl, List.nil_append]
  · rw [if_neg hLow]
    by_cases hRange : (0xC2 ≤ b && b ≤ 0xF4) = true
    · rw [if_pos hRange]
      simp only [Bool.and_eq_true, decide_eq_true_eq, UInt8.le_iff_toNat_le] at hRange
      exact .one hRange
    · rw [if_neg hRange]
      trivial

theorem continues_one (hFirst : 194 ≤ first.toNat ∧ first.toNat ≤ 244) (b : UInt8) :
    Continues [first] b := by
  unfold Continues effect
  dsimp only
  cases hSecond : isSecond first b with
  | false => trivial
  | true =>
    rw [Bool.not_true, if_neg Bool.false_ne_true]
    obtain ⟨hRange, -⟩ := isSecond_iff.mp hSecond
    have hLow := low_add hRange
    by_cases hShort : first < 0xE0
    · rw [if_pos hShort]
      have hByte : first.toNat < 224 := UInt8.lt_iff_toNat_lt.mp hShort
      dsimp only
      rw [encodeChar_ofNat (by omega), if_neg (by omega), if_pos (by omega),
        ofNat_eq (b := first) (by omega), following_eq (b := b) (by omega), List.singleton_append]
    · rw [if_neg hShort]
      have hByte : ¬ first.toNat < 224 := fun h => hShort (UInt8.lt_iff_toNat_lt.mpr h)
      exact .two ⟨by omega, hFirst.2⟩ hSecond

theorem continues_two (hFirst : 224 ≤ first.toNat ∧ first.toNat ≤ 244)
    (hSecond : isSecond first second = true) (b : UInt8) : Continues [first, second] b := by
  unfold Continues effect
  dsimp only
  cases hSurrogate : isSurrogate first second with
  | true => trivial
  | false =>
    rw [if_neg Bool.false_ne_true]
    cases hThird : isContinuation b with
    | false => trivial
    | true =>
      rw [Bool.not_true, if_neg Bool.false_ne_true]
      obtain ⟨hRange, hE0, -, -⟩ := isSecond_iff.mp hSecond
      have hLow := low_add (isContinuation_iff.mp hThird)
      have hLow' := low_add hRange
      have hBounds := isContinuation_iff.mp hThird
      have hScalar := mt isSurrogate_iff.mpr (Bool.eq_false_iff.mp hSurrogate)
      by_cases hShort : first < 0xF0
      · rw [if_pos hShort]
        have hByte : first.toNat < 240 := UInt8.lt_iff_toNat_lt.mp hShort
        dsimp only
        rw [encodeChar_ofNat (by omega), if_neg (by omega), if_neg (by omega),
          if_pos (by omega), ofNat_eq (b := first) (by omega), following_eq (b := second) (by omega),
          following_eq (b := b) (by omega)]
        rfl
      · rw [if_neg hShort]
        have hByte : ¬ first.toNat < 240 := fun h => hShort (UInt8.lt_iff_toNat_lt.mpr h)
        exact .three ⟨by omega, hFirst.2⟩ hSecond hThird

theorem continues_three (hFirst : 240 ≤ first.toNat ∧ first.toNat ≤ 244)
    (hSecond : isSecond first second = true) (hThird : isContinuation third = true) (b : UInt8) :
    Continues [first, second, third] b := by
  unfold Continues effect
  dsimp only
  cases hFourth : isContinuation b with
  | false => trivial
  | true =>
    rw [Bool.not_true, if_neg Bool.false_ne_true]
    obtain ⟨hRange, -, hF0, hF4⟩ := isSecond_iff.mp hSecond
    have hBounds := isContinuation_iff.mp hThird
    have hBounds' := isContinuation_iff.mp hFourth
    have hLow := low_add hBounds'
    have hLow' := low_add hRange
    have hLow'' := low_add hBounds
    dsimp only
    rw [encodeChar_ofNat (by omega), if_neg (by omega), if_neg (by omega),
      if_neg (by omega), ofNat_eq (b := first) (by omega), following_eq (b := second) (by omega),
      following_eq (b := third) (by omega), following_eq (b := b) (by omega)]
    rfl

/-- One byte more is held or completes a character, if it is not refused. -/
theorem Begun.continues {pending : Bytes} (h : Begun pending) (b : UInt8) :
    Continues pending b := by
  cases h with
  | none => exact continues_none b
  | one hFirst => exact continues_one hFirst b
  | two hFirst hSecond => exact continues_two hFirst hSecond b
  | three hFirst hSecond hThird => exact continues_three hFirst hSecond hThird b

/-! ## What is held -/

theorem IsPart.front {held more : Bytes} (h : IsPart (held ++ more)) : IsPart held := by
  obtain ⟨c, rest, hNe, hChar⟩ := h
  exact ⟨c, more ++ rest, by simp [hNe], by rw [hChar, List.append_assoc]⟩

/-- Bytes that a byte completes are a part of a character. -/
theorem Begun.isPart {held : Bytes} (h : Begun held) {code : Nat}
    (hEffect : effect held b = .complete code) : IsPart held := by
  have hContinues := h.continues b
  unfold Continues at hContinues
  rw [hEffect] at hContinues
  exact ⟨_, [b], by simp, hContinues⟩

theorem isPart_three (hFirst : 240 ≤ first.toNat ∧ first.toNat ≤ 244)
    (hSecond : isSecond first second = true) (hThird : isContinuation third = true) :
    IsPart [first, second, third] :=
  (Begun.three hFirst hSecond hThird).isPart (b := 0x80) rfl

theorem isPart_two (hFirst : 224 ≤ first.toNat ∧ first.toNat ≤ 244)
    (hSecond : isSecond first second = true) (hScalar : ¬ isSurrogate first second = true) :
    IsPart [first, second] := by
  by_cases hShort : first < 0xF0
  · have hEffect := effect_third (b := 0x80) hScalar (by decide)
    rw [if_pos hShort] at hEffect
    exact (Begun.two hFirst hSecond).isPart hEffect
  · have hByte : ¬ first.toNat < 240 := fun h => hShort (UInt8.lt_iff_toNat_lt.mpr h)
    have hPart : IsPart ([first, second] ++ [0x80]) :=
      isPart_three ⟨by omega, hFirst.2⟩ hSecond (by decide)
    exact hPart.front

theorem isPart_one (hFirst : 194 ≤ first.toNat ∧ first.toNat ≤ 244) : IsPart [first] := by
  -- the lowest byte that may stand behind the first one
  obtain ⟨second, hSecond, hScalar⟩ :
      ∃ second, isSecond first second = true ∧ ¬ isSurrogate first second = true := by
    have hBounds (n : Nat) (hn : n < 256) (hLow : 128 ≤ n ∧ n ≤ 160)
        (hE0 : first.toNat = 224 → n = 160) (hF0 : first.toNat = 240 → n = 144)
        (hOther : first.toNat ≠ 224 → first.toNat ≠ 240 → n = 128) :
        ∃ second, isSecond first second = true ∧ ¬ isSurrogate first second = true := by
      refine ⟨UInt8.ofNat n, ?_, ?_⟩
      · rw [isSecond_iff, toNat_byte hn]
        omega
      · rw [isSurrogate_iff, toNat_byte hn]
        omega
    by_cases hE0 : first.toNat = 224
    · exact hBounds 160 (by decide) (by decide) (by omega) (by omega) (by omega)
    · by_cases hF0 : first.toNat = 240
      · exact hBounds 144 (by decide) (by decide) (by omega) (by omega) (by omega)
      · exact hBounds 128 (by decide) (by decide) (by omega) (by omega) (by omega)
  by_cases hShort : first < 0xE0
  · have hEffect := effect_second hSecond
    rw [if_pos hShort] at hEffect
    exact (Begun.one hFirst).isPart hEffect
  · have hByte : ¬ first.toNat < 224 := fun h => hShort (UInt8.lt_iff_toNat_lt.mpr h)
    have hPart : IsPart ([first] ++ [second]) :=
      isPart_two ⟨by omega, hFirst.2⟩ hSecond hScalar
    exact hPart.front

/-- Bytes that begin a character are held. -/
theorem Begun.isHeld {held : Bytes} (h : Begun held) : IsHeld held := by
  cases h with
  | none => exact .inl ⟨'a', [0x61], by simp, by decide⟩
  | one hFirst => exact .inl (isPart_one hFirst)
  | @two first second hFirst hSecond =>
    by_cases hSurrogate : isSurrogate first second = true
    · obtain ⟨hED, hHigh⟩ := isSurrogate_iff.mp hSurrogate
      obtain ⟨hRange, -⟩ := isSecond_iff.mp hSecond
      obtain rfl : first = 0xED := UInt8.toNat_inj.mp hED
      exact .inr ⟨second, rfl, UInt8.le_iff_toNat_le.mpr hHigh, UInt8.le_iff_toNat_le.mpr hRange.2⟩
    · exact .inl (isPart_two hFirst hSecond hSurrogate)
  | three hFirst hSecond hThird => exact .inl (isPart_three hFirst hSecond hThird)

/-! ## What is read -/

/-- Whether the decoder has read the bytes: its text, and behind it what it holds. -/
def Decoder.HasRead (d : Decoder) (bytes : Bytes) : Prop :=
  bytes = encode d.text.reverse ++ d.pending ∧ Begun d.pending

theorem Decoder.HasRead.step {d d' : Decoder} {bytes : Bytes} (h : d.HasRead bytes)
    (hStep : step d b = .ok d') : d'.HasRead (bytes ++ [b]) := by
  obtain ⟨hBytes, hBegun⟩ := h
  have hContinues := hBegun.continues b
  unfold Continues at hContinues
  unfold Utf8.step at hStep
  cases hEffect : effect d.pending b with
  | hold =>
    rw [hEffect] at hStep hContinues
    cases hStep
    exact ⟨by rw [hBytes, List.append_assoc], hContinues⟩
  | complete code =>
    rw [hEffect] at hStep hContinues
    cases hStep
    refine ⟨?_, .none⟩
    dsimp only at hContinues ⊢
    rw [hBytes, List.reverse_cons, encode_append, encode_singleton, hContinues,
      List.append_assoc, List.append_nil]
  | refuse length reason =>
    rw [hEffect] at hStep
    cases hStep

theorem Decoder.HasRead.feed {d d' : Decoder} {bytes more : Bytes} (h : d.HasRead bytes)
    (hFeed : feed d more = .ok d') : d'.HasRead (bytes ++ more) := by
  induction more generalizing d bytes with
  | nil =>
    cases hFeed
    rwa [List.append_nil]
  | cons b more ih =>
    rw [feed_cons] at hFeed
    cases hStep : Utf8.step d b with
    | error flaw =>
      rw [hStep] at hFeed
      cases hFeed
    | ok d₁ =>
      rw [hStep] at hFeed
      have hMore := ih (h.step hStep) hFeed
      rwa [List.append_assoc] at hMore

/-- What is held of a character is held by a decoder that takes it. -/
theorem feed_isPart {held : Bytes} (h : IsPart held) :
    ∃ taken, feed {} held = .ok ⟨taken, held, []⟩ := by
  obtain ⟨c, more, hNe, hChar⟩ := h
  obtain ⟨taken, hFeed⟩ := feed_char c 0 []
  rw [hChar, feed_append] at hFeed
  cases hHeld : feed {} held with
  | error flaw =>
    rw [hHeld] at hFeed
    cases hFeed
  | ok d =>
    rw [hHeld] at hFeed
    obtain ⟨taken', pending, text⟩ := d
    have hRead : Decoder.HasRead ⟨taken', pending, text⟩ ([] ++ held) :=
      Decoder.HasRead.feed ⟨rfl, .none⟩ hHeld
    obtain ⟨hBytes, -⟩ := hRead
    obtain ⟨new, hText, -⟩ := feed_elsewhere (t := text) hFeed
    dsimp only at hBytes hText
    rw [List.nil_append] at hBytes
    -- no character is complete before the last byte of this one
    cases text with
    | nil =>
      obtain rfl : held = pending := hBytes
      exact ⟨taken', rfl⟩
    | cons d text =>
      cases new with
      | cons e new => simp at hText
      | nil =>
        cases hText
        have hLength := congrArg List.length hBytes
        have hPositive := List.length_pos_iff.mpr hNe
        rw [List.reverse_singleton, encode_singleton, hChar, List.length_append,
          List.length_append] at hLength
        omega

theorem feed_isHeld {held : Bytes} (h : IsHeld held) (taken : Nat) (t : Text) :
    ∃ taken', feed ⟨taken, [], t⟩ held = .ok ⟨taken', held, t⟩ := by
  rcases h with hPart | ⟨b, rfl, hLow, hHigh⟩
  · obtain ⟨taken', hFeed⟩ := feed_isPart hPart
    obtain ⟨new, hText, hElsewhere⟩ := feed_elsewhere hFeed
    obtain ⟨taken'', hHere⟩ := hElsewhere taken t
    obtain rfl : new = [] := by simpa using hText.symm
    exact ⟨taken'', hHere⟩
  · have hSecond : isSecond 0xED b = true := by
      rw [isSecond_iff]
      exact ⟨⟨Nat.le_trans (by decide) (UInt8.le_iff_toNat_le.mp hLow),
        UInt8.le_iff_toNat_le.mp hHigh⟩, nofun, nofun, nofun⟩
    have hFirst : effect [] 0xED = .hold := rfl
    have hHold : effect [0xED] b = .hold := by
      rw [effect_second hSecond]
      rfl
    refine ⟨taken + 1 + 1, ?_⟩
    rw [feed_hold hFirst, feed_hold hHold]
    rfl

/-- No byte behind the first two of a surrogate makes a character. -/
theorem IsHalfSurrogate.not_isPart {held : Bytes} (h : IsHalfSurrogate held) : ¬ IsPart held := by
  rintro ⟨c, more, hNe, hChar⟩
  obtain ⟨taken, hFeed⟩ := feed_char c 0 []
  obtain ⟨taken', hHeld⟩ := feed_isHeld (.inr h) 0 []
  obtain ⟨b, rfl, hLow, -⟩ := h
  obtain ⟨next, rest, rfl⟩ := List.exists_cons_of_ne_nil hNe
  have hSurrogate : isSurrogate 0xED b = true :=
    isSurrogate_iff.mpr ⟨rfl, UInt8.le_iff_toNat_le.mp hLow⟩
  have hRefused : step ⟨taken', [0xED, b], []⟩ next =
      .error ⟨taken' - 2, [0xED], .invalidContinuation⟩ := by
    simp [step, effect, hSurrogate]
  rw [hChar, feed_append, hHeld] at hFeed
  change feed ⟨taken', [0xED, b], []⟩ (next :: rest) = _ at hFeed
  rw [feed_cons, hRefused] at hFeed
  cases hFeed

/-- A decoder that has refused no byte has read a text, and holds what is not yet complete. -/
theorem feed_eq_ok_iff {bytes held : Bytes} {t : Text} :
    (∃ taken, feed {} bytes = .ok ⟨taken, held, t.reverse⟩) ↔
      bytes = encode t ++ held ∧ IsHeld held := by
  constructor
  · rintro ⟨taken, hFeed⟩
    have hRead : Decoder.HasRead ⟨taken, held, t.reverse⟩ ([] ++ bytes) :=
      Decoder.HasRead.feed ⟨rfl, .none⟩ hFeed
    obtain ⟨hBytes, hBegun⟩ := hRead
    dsimp only at hBytes
    rw [List.reverse_reverse, List.nil_append] at hBytes
    exact ⟨hBytes, hBegun.isHeld⟩
  · rintro ⟨rfl, hHeld⟩
    obtain ⟨taken, hText⟩ := feed_encode 0 t []
    rw [List.append_nil] at hText
    obtain ⟨taken', hRest⟩ := feed_isHeld hHeld taken t.reverse
    refine ⟨taken', ?_⟩
    rw [feed_append, hText]
    exact hRest

/-- Whether the bytes are a text in UTF-8, up to what a decoder holds. -/
def IsReadable (bytes : Bytes) : Prop := ∃ t held, bytes = encode t ++ held ∧ IsHeld held

theorem isReadable_iff {bytes : Bytes} : IsReadable bytes ↔ ∃ d, feed {} bytes = .ok d := by
  constructor
  · rintro ⟨t, held, hBytes⟩
    obtain ⟨taken, hFeed⟩ := feed_eq_ok_iff.mpr hBytes
    exact ⟨_, hFeed⟩
  · rintro ⟨⟨taken, held, t⟩, hFeed⟩
    rw [← List.reverse_reverse t] at hFeed
    exact ⟨t.reverse, held, feed_eq_ok_iff.mp ⟨taken, hFeed⟩⟩

theorem IsReadable.front {front back : Bytes} (h : IsReadable (front ++ back)) :
    IsReadable front := by
  obtain ⟨d, hFeed⟩ := isReadable_iff.mp h
  rw [feed_append, bind_eq_ok_iff] at hFeed
  obtain ⟨d', hFront, -⟩ := hFeed
  exact isReadable_iff.mpr ⟨d', hFront⟩

theorem isHeld_nil : IsHeld [] := Begun.none.isHeld

theorem decode_eq_ok_iff_encode {bytes : Bytes} {t : Text} :
    decode bytes = .ok t ↔ bytes = encode t := by
  rw [decode_eq_ok_iff, feed_eq_ok_iff, List.append_nil]
  exact and_iff_left isHeld_nil

theorem isReadable_encode (t : Text) : IsReadable (encode t) :=
  ⟨t, [], (List.append_nil _).symm, isHeld_nil⟩

end Excerpt.Utf8
