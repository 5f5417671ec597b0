import Excerpt.Text.Basic

/-!
# UTF-8

The strict reading of UTF-8, one byte at a time. Between two bytes the decoder holds the bytes of
a code point that is not yet complete; it refuses a byte as soon as no code point can begin that
way. A first byte of a surrogate and a byte behind it are held until the next byte or the end, and
then refused.

* `decode_append`: reading two parts one behind the other is reading the whole.
* `step_ok_pending`: at most three bytes are held.
-/

namespace Excerpt

/-- The content of a file. -/
abbrev Bytes := List UInt8

namespace Utf8

/-- Why bytes are no UTF-8. -/
inductive Reason where
  | invalidStart
  | invalidContinuation
  | unexpectedEnd
  deriving DecidableEq, Repr

/-- The first bytes that cannot be read, counted from zero in what was read together. -/
structure Flaw where
  position : Nat
  bytes : Bytes
  reason : Reason
  deriving DecidableEq, Repr

/-- The decoder between two bytes: how many it has taken, which of them it holds, and the
characters it has read, newest first. -/
structure Decoder where
  taken : Nat := 0
  pending : Bytes := []
  text : Text := []

/-- Whether the byte continues a code point. -/
def isContinuation (b : UInt8) : Bool := 0x80 ≤ b && b ≤ 0xBF

/-- Whether the byte may stand second behind the first; a surrogate is not yet told apart. -/
def isSecond (first b : UInt8) : Bool :=
  if first == 0xE0 then 0xA0 ≤ b && b ≤ 0xBF
  else if first == 0xF0 then 0x90 ≤ b && b ≤ 0xBF
  else if first == 0xF4 then 0x80 ≤ b && b ≤ 0x8F
  else isContinuation b

/-- Whether the two bytes begin a surrogate. -/
def isSurrogate (first second : UInt8) : Bool := first == 0xED && 0xA0 ≤ second

/-- The six low bits of a byte that continues a code point. -/
def low (b : UInt8) : Nat := b.toNat % 0x40

/-- What a byte does to the bytes that are held. -/
inductive Effect where
  | hold
  | complete (code : Nat)
  | refuse (length : Nat) (reason : Reason)

/-- The effect of a byte behind the bytes that are held. -/
def effect (pending : Bytes) (b : UInt8) : Effect :=
  match pending with
  | [] =>
    if b < 0x80 then .complete b.toNat
    else if 0xC2 ≤ b && b ≤ 0xF4 then .hold
    else .refuse 1 .invalidStart
  | [first] =>
    if !isSecond first b then .refuse 1 .invalidContinuation
    else if first < 0xE0 then .complete ((first.toNat % 0x20) * 0x40 + low b)
    else .hold
  | [first, second] =>
    if isSurrogate first second then .refuse 1 .invalidContinuation
    else if !isContinuation b then .refuse 2 .invalidContinuation
    else if first < 0xF0 then
      .complete ((first.toNat % 0x10) * 0x1000 + low second * 0x40 + low b)
    else .hold
  | first :: second :: third :: _ =>
    if !isContinuation b then .refuse 3 .invalidContinuation
    else .complete
      ((first.toNat % 0x08) * 0x40000 + low second * 0x1000 + low third * 0x40 + low b)

/-- Takes one byte. -/
def step (d : Decoder) (b : UInt8) : Except Flaw Decoder :=
  match effect d.pending b with
  | .hold => .ok ⟨d.taken + 1, d.pending ++ [b], d.text⟩
  | .complete code => .ok ⟨d.taken + 1, [], Char.ofNat code :: d.text⟩
  | .refuse length reason =>
    .error ⟨d.taken - d.pending.length, (d.pending ++ [b]).take length, reason⟩

/-- Takes the bytes one after the other. -/
def feed (d : Decoder) (bytes : Bytes) : Except Flaw Decoder := bytes.foldlM step d

/-- Nothing more follows: refuses bytes that are still held. -/
def finish (d : Decoder) : Except Flaw Text :=
  match d.pending with
  | [] => .ok d.text.reverse
  | [first, second] =>
    if isSurrogate first second then
      .error ⟨d.taken - 2, [first], .invalidContinuation⟩
    else .error ⟨d.taken - 2, [first, second], .unexpectedEnd⟩
  | pending => .error ⟨d.taken - pending.length, pending, .unexpectedEnd⟩

/-- Reads the whole as UTF-8. -/
def decode (bytes : Bytes) : Except Flaw Text := feed {} bytes >>= finish

/-- The bytes of a text. -/
def encode (t : Text) : Bytes := t.flatMap String.utf8EncodeChar

/-- The number of bytes of a text. -/
def size (t : Text) : Nat := (encode t).length

theorem feed_append (d : Decoder) (front back : Bytes) :
    feed d (front ++ back) = feed d front >>= fun d' => feed d' back := by
  simp [feed, List.foldlM_append]

theorem decode_append (front back : Bytes) :
    decode (front ++ back) = feed {} front >>= fun d => feed d back >>= finish := by
  simp [decode, feed_append]

theorem step_ok_pending {d d' : Decoder} {b : UInt8} (hd : d.pending.length ≤ 3)
    (h : step d b = .ok d') : d'.pending.length ≤ 3 := by
  unfold step at h
  split at h
  · rename_i he
    cases h
    have hlt : d.pending.length < 3 := by
      refine Nat.lt_of_le_of_ne hd fun hEq => ?_
      match hp : d.pending with
      | [] => simp [hp] at hEq
      | [_] => simp [hp] at hEq
      | [_, _] => simp [hp] at hEq
      | first :: second :: third :: rest =>
        simp only [hp, effect] at he
        split at he <;> cases he
    simp
    omega
  · cases h
    simp
  · cases h

end Utf8

end Excerpt
