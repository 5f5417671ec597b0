import Excerpt.Disk.Feed

/-!
# The feed of a file that can be read

What a decoder reads does not depend on how many bytes it has taken before, nor on the characters
that it has already read. So a file in UTF-8 may be cut anywhere, also within a character, and its
feed has all its lines and no flaw.

* `Utf8.decode_append_ok`: two files in UTF-8, one behind the other, read as their texts.
* `Feed.ofPieces_append`, `Feed.ofPieces_cases`: what a reader sees of pieces, up to a flaw.
* `Feed.exists_pieces_append`, `Feed.flatten_of_pieces_append`: which bytes are in the first pieces.
* `Feed.ofBytes_of_decode`: the feed of a file in UTF-8 has the lines of its text.
-/

namespace Excerpt

namespace Utf8

/-! ## What the past of a decoder does -/

/-- A byte is taken in the same way whatever has been taken and read before. -/
theorem step_elsewhere {taken : Nat} {pending : Bytes} {t : Text} {b : UInt8} {d : Decoder}
    (h : step ⟨taken, pending, t⟩ b = .ok d) :
    ∃ new, d = ⟨taken + 1, d.pending, new ++ t⟩ ∧ ∀ taken' t',
      step ⟨taken', pending, t'⟩ b = .ok ⟨taken' + 1, d.pending, new ++ t'⟩ := by
  simp only [step] at h ⊢
  cases he : effect pending b with
  | hold =>
    rw [he] at h
    cases h
    exact ⟨[], rfl, fun _ _ => rfl⟩
  | complete code =>
    rw [he] at h
    cases h
    exact ⟨[Char.ofNat code], rfl, fun _ _ => rfl⟩
  | refuse length reason =>
    rw [he] at h
    cases h

theorem feed_cons (d : Decoder) (b : UInt8) (bytes : Bytes) :
    feed d (b :: bytes) = step d b >>= fun d' => feed d' bytes := by
  simp [feed]

/-- So are bytes in a row. -/
theorem feed_elsewhere {taken : Nat} {pending : Bytes} {t : Text} {bytes : Bytes} {d : Decoder}
    (h : feed ⟨taken, pending, t⟩ bytes = .ok d) :
    ∃ new, d.text = new ++ t ∧ ∀ taken' t', ∃ taken'',
      feed ⟨taken', pending, t'⟩ bytes = .ok ⟨taken'', d.pending, new ++ t'⟩ := by
  induction bytes generalizing taken pending t with
  | nil =>
    cases h
    exact ⟨[], rfl, fun taken' _ => ⟨taken', rfl⟩⟩
  | cons b rest ih =>
    rw [feed_cons] at h
    cases hs : step ⟨taken, pending, t⟩ b with
    | error flaw =>
      rw [hs] at h
      cases h
    | ok d₁ =>
      rw [hs] at h
      obtain ⟨first, hd, hStep⟩ := step_elsewhere hs
      rw [hd] at h
      obtain ⟨new, hText, hFeed⟩ := ih h
      refine ⟨new ++ first, by rw [hText, List.append_assoc], fun taken' t' => ?_⟩
      obtain ⟨taken'', hRest⟩ := hFeed (taken' + 1) (first ++ t')
      refine ⟨taken'', ?_⟩
      rw [feed_cons, hStep taken' t', List.append_assoc]
      exact hRest

/-! ## Whole files -/

theorem finish_eq_ok_iff {d : Decoder} {t : Text} :
    finish d = .ok t ↔ d.pending = [] ∧ d.text.reverse = t := by
  unfold finish
  split
  · rename_i hp
    simp [hp]
  · rename_i hp
    split <;> simp [hp]
  · rename_i hNil _
    simp only [reduceCtorEq, false_iff, not_and]
    exact fun hp => (hNil hp).elim

theorem decode_eq_ok_iff {bytes : Bytes} {t : Text} :
    decode bytes = .ok t ↔ ∃ taken, feed {} bytes = .ok ⟨taken, [], t.reverse⟩ := by
  unfold decode
  cases h : feed {} bytes with
  | error flaw =>
    simp [bind, Except.bind]
  | ok d =>
    obtain ⟨taken, pending, text⟩ := d
    change finish ⟨taken, pending, text⟩ = .ok t ↔ _
    rw [finish_eq_ok_iff]
    simp only [Except.ok.injEq, Decoder.mk.injEq]
    constructor
    · rintro ⟨rfl, rfl⟩
      exact ⟨taken, rfl, rfl, (List.reverse_reverse text).symm⟩
    · rintro ⟨_, _, rfl, rfl⟩
      exact ⟨rfl, List.reverse_reverse t⟩

theorem decode_append_ok {front back : Bytes} {t u : Text} (ht : decode front = .ok t)
    (hu : decode back = .ok u) : decode (front ++ back) = .ok (t ++ u) := by
  obtain ⟨taken, hFront⟩ := decode_eq_ok_iff.mp ht
  obtain ⟨_, hBack⟩ := decode_eq_ok_iff.mp hu
  obtain ⟨new, hText, hFeed⟩ := feed_elsewhere hBack
  obtain ⟨taken', hRest⟩ := hFeed taken t.reverse
  have hNew : new = u.reverse := by simpa using hText.symm
  rw [decode_eq_ok_iff]
  refine ⟨taken', ?_⟩
  rw [feed_append, hFront, List.reverse_append, ← hNew]
  exact hRest

/-- Whether a text is one in ASCII. -/
def IsAscii (t : Text) : Prop := ∀ c ∈ t, c.toNat < 128

instance (t : Text) : Decidable (IsAscii t) := List.decidableBAll (fun c : Char => c.toNat < 128) t

/-- The bytes of a text in ASCII. -/
def asciiBytes (t : Text) : Bytes := t.map fun c => UInt8.ofNat c.toNat

theorem decode_asciiBytes {t : Text} (h : IsAscii t) :
    decode (asciiBytes t) = .ok t := by
  have hFeed : ∀ taken new, ∃ taken',
      feed ⟨taken, [], new⟩ (asciiBytes t) = .ok ⟨taken', [], t.reverse ++ new⟩ := by
    induction t with
    | nil => exact fun taken new => ⟨taken, rfl⟩
    | cons c rest ih =>
      intro taken new
      have hc := h c List.mem_cons_self
      have hByte : (UInt8.ofNat c.toNat).toNat = c.toNat := by
        rw [UInt8.toNat_ofNat']
        omega
      have hEffect : effect [] (UInt8.ofNat c.toNat) = .complete c.toNat := by
        unfold effect
        have hLt : UInt8.ofNat c.toNat < 0x80 := by
          rw [UInt8.lt_iff_toNat_lt, hByte]
          exact hc
        simp [hLt, hByte]
      obtain ⟨taken', hRest⟩ :=
        ih (fun c' hc' => h c' (List.mem_cons_of_mem _ hc')) (taken + 1) (c :: new)
      refine ⟨taken', ?_⟩
      have hStep : step ⟨taken, [], new⟩ (UInt8.ofNat c.toNat) =
          .ok ⟨taken + 1, [], c :: new⟩ := by
        simp only [step, hEffect, Char.ofNat_toNat]
      rw [asciiBytes, List.map_cons, feed_cons, hStep, List.reverse_cons, List.append_assoc]
      exact hRest
  obtain ⟨taken, hAll⟩ := hFeed 0 []
  rw [List.append_nil] at hAll
  exact decode_eq_ok_iff.mpr ⟨taken, hAll⟩

end Utf8

/-! ## Pieces -/

namespace Feed

/-- What is taken behind the held bytes alone is taken behind all that was read before, too. -/
theorem feed_from {d d' : Utf8.Decoder} {bytes : Bytes}
    (h : Utf8.feed ⟨d.pending.length, d.pending, []⟩ bytes = .ok d') :
    ∃ taken, Utf8.feed d bytes = .ok ⟨taken, d'.pending, d'.text ++ d.text⟩ := by
  obtain ⟨new, hText, hFeed⟩ := Utf8.feed_elsewhere h
  obtain ⟨taken, hHere⟩ := hFeed d.taken d.text
  rw [List.append_nil] at hText
  exact ⟨taken, hText ▸ hHere⟩

/-- The state behind pieces of which no byte is refused: the characters read are given on, and what
is not complete is held. -/
def stateBehind (s : FeedState) (d : Utf8.Decoder) : FeedState :=
  ⟨d.pending, d.text.reverse.foldl (LineSplitter.push isSourceBreak) s.splitter⟩

theorem take_eq_ok {s : FeedState} {piece : Bytes} {d : Utf8.Decoder}
    (h : Utf8.feed s.decoder piece = .ok d) : s.take piece = .ok (stateBehind s d) := by
  simp [FeedState.take, h, stateBehind]

theorem stateBehind_stateBehind (s : FeedState) (d d' : Utf8.Decoder) (taken : Nat) :
    stateBehind (stateBehind s d) d' = stateBehind s ⟨taken, d'.pending, d'.text ++ d.text⟩ := by
  simp [stateBehind]

theorem stateBehind_decoder (s : FeedState) : stateBehind s s.decoder = s := rfl

/-- Pieces of which no byte is refused leave a reader in the state behind all of their bytes. -/
theorem ofPieces_append {parts : List Bytes} {s : FeedState} {d : Utf8.Decoder}
    (h : Utf8.feed s.decoder parts.flatten = .ok d) (broken : Option SystemError)
    (rest : List Bytes) :
    ofPieces s broken (parts ++ rest) = ofPieces (stateBehind s d) broken rest := by
  induction parts generalizing s d with
  | nil =>
    obtain rfl : s.decoder = d := Except.ok.inj h
    rw [stateBehind_decoder, List.nil_append]
  | cons piece parts ih =>
    rw [List.flatten_cons, Utf8.feed_append] at h
    cases hPiece : Utf8.feed s.decoder piece with
    | error flaw =>
      rw [hPiece] at h
      cases h
    | ok d₁ =>
      rw [hPiece] at h
      -- behind a piece the decoder starts anew, with nothing read
      obtain ⟨later, hText, hFeed⟩ := Utf8.feed_elsewhere (t := d₁.text) h
      obtain ⟨taken, hRest⟩ := hFeed d₁.pending.length []
      have hState := stateBehind_stateBehind s d₁ ⟨taken, d.pending, later ++ []⟩ d.taken
      rw [List.append_nil, ← hText] at hState
      have hParts := ih (s := stateBehind s d₁) hRest
      rw [List.cons_append, ofPieces, take_eq_ok hPiece]
      dsimp only
      rw [hParts, List.append_nil, hState]

theorem ofPieces_of_feed {parts : List Bytes} {s : FeedState} {taken : Nat} {new : Text}
    (h : Utf8.feed s.decoder parts.flatten = .ok ⟨taken, [], new⟩) :
    ofPieces s none parts =
      ⟨(new.reverse.foldl (LineSplitter.push isSourceBreak) s.splitter).finish, none⟩ := by
  have hAll := ofPieces_append h none []
  rwa [List.append_nil] at hAll

/-- A reader comes to the end of the pieces, or to one that is not UTF-8; what was read before that
is given out as far as its lines are complete. -/
theorem ofPieces_cases (s : FeedState) (parts : List Bytes) :
    (∃ taken new, Utf8.feed s.decoder parts.flatten = .ok ⟨taken, [], new⟩) ∨
    ∃ front back d flaw, parts = front ++ back ∧ Utf8.feed s.decoder front.flatten = .ok d ∧
      ofPieces s none parts =
        ⟨(stateBehind s d).splitter.lines, some (.notDecoded flaw)⟩ := by
  induction parts generalizing s with
  | nil =>
    cases hFinish : Utf8.finish s.decoder with
    | ok t =>
      obtain ⟨hPending, -⟩ := Utf8.finish_eq_ok_iff.mp hFinish
      have hDecoder : s.decoder = ⟨s.pending.length, [], []⟩ := by
        rw [FeedState.decoder, show s.pending = [] from hPending]
      exact .inl ⟨_, _, congrArg Except.ok hDecoder⟩
    | error flaw =>
      refine .inr ⟨[], [], s.decoder, flaw, rfl, rfl, ?_⟩
      rw [stateBehind_decoder, ofPieces, FeedState.stop, FeedState.finish, hFinish]
  | cons piece rest ih =>
    cases hPiece : Utf8.feed s.decoder piece with
    | error flaw =>
      refine .inr ⟨[], piece :: rest, s.decoder, flaw, rfl, rfl, ?_⟩
      rw [stateBehind_decoder, ofPieces, FeedState.take, hPiece]
    | ok d₁ =>
      have hBoth {front : List Bytes} {d : Utf8.Decoder}
          (h : Utf8.feed (stateBehind s d₁).decoder front.flatten = .ok d) :
          ∃ taken, Utf8.feed s.decoder (piece :: front).flatten =
            .ok ⟨taken, d.pending, d.text ++ d₁.text⟩ := by
        obtain ⟨taken, hFeed⟩ := feed_from h
        refine ⟨taken, ?_⟩
        rw [List.flatten_cons, Utf8.feed_append, hPiece]
        exact hFeed
      have hNext : ofPieces s none (piece :: rest) = ofPieces (stateBehind s d₁) none rest := by
        rw [ofPieces, take_eq_ok hPiece]
      rcases ih (stateBehind s d₁) with
        ⟨taken, new, hAll⟩ | ⟨front, back, d, flaw, rfl, hFront, hEnd⟩
      · obtain ⟨taken', hFeed⟩ := hBoth hAll
        exact .inl ⟨taken', _, hFeed⟩
      · obtain ⟨taken', hFeed⟩ := hBoth hFront
        refine .inr ⟨piece :: front, back, _, flaw, rfl, hFeed, ?_⟩
        rw [hNext, hEnd, stateBehind_stateBehind]

/-! ## Cutting a file -/

theorem pieces_cons {content : Bytes} (h : content ≠ []) :
    pieces content = content.take pieceSize :: pieces (content.drop pieceSize) := by
  rw [pieces, dif_neg h]

theorem exists_pieces_append (content : Bytes) (k : Nat) :
    ∃ front, pieces content = front ++ pieces (content.drop (pieceSize * k)) ∧
      front.flatten = content.take (pieceSize * k) := by
  induction k generalizing content with
  | zero => exact ⟨[], rfl, rfl⟩
  | succ k ih =>
    by_cases hNil : content = []
    · refine ⟨[], ?_, ?_⟩
      · simp [hNil]
      · simp [hNil]
    · obtain ⟨front, hPieces, hFlatten⟩ := ih (content.drop pieceSize)
      refine ⟨content.take pieceSize :: front, ?_, ?_⟩
      · rw [pieces_cons hNil, hPieces, List.drop_drop, Nat.mul_succ, Nat.add_comm, List.cons_append]
      · rw [List.flatten_cons, hFlatten, Nat.mul_succ, Nat.add_comm, List.take_add]

theorem flatten_of_pieces_append {content : Bytes} {front back : List Bytes}
    (h : pieces content = front ++ back) :
    front.flatten = content.take (pieceSize * front.length) := by
  induction front generalizing content with
  | nil => rfl
  | cons piece front ih =>
    by_cases hNil : content = []
    · rw [hNil, pieces, dif_pos rfl] at h
      cases h
    · rw [pieces_cons hNil, List.cons_append] at h
      obtain ⟨rfl, hRest⟩ := List.cons_eq_cons.mp h
      rw [List.flatten_cons, ih hRest, List.length_cons, Nat.mul_succ, Nat.add_comm, List.take_add]

theorem ofBytes_of_decode {content : Bytes} {t : Text} (h : Utf8.decode content = .ok t) :
    ofBytes content = ⟨Text.lines isSourceBreak t, none⟩ := by
  obtain ⟨taken, hFeed⟩ := Utf8.decode_eq_ok_iff.mp h
  rw [← pieces_flatten content] at hFeed
  have hPieces := ofPieces_of_feed (s := {}) hFeed
  rw [List.reverse_reverse] at hPieces
  exact hPieces

end Feed

end Excerpt
