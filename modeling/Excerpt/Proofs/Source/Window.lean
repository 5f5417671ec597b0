import Excerpt.Proofs.Insertion.Stability
import Excerpt.Proofs.Source.Lines
import Excerpt.Proofs.Text.Held

/-!
# Windows of a source file

A block is read up to the line behind it. If the file is in UTF-8, its lines are those of the range,
wherever its pieces are cut. If the line behind the block is complete within some pieces, nothing
behind these matters. Otherwise the first piece that cannot be read is met, and the read fails.

* `CompleteLines.lines_prefix`, `completeLines_text`: the lines that a splitter has given out.
* `Feed.ofBytes_cases`: a file is read to its end, or to a piece that cannot be read.
* `CodeBlock.read_window`: what is read, and when a read fails.
* `CodeBlock.read_halfSurrogate`: the front of a surrogate is not refused at the end of a piece.
-/

namespace Excerpt

/-! ## Complete lines -/

/-- The text begins with the lines, each of which is known to have ended. -/
inductive CompleteLines : Text → List Text → Prop
  | none (t : Text) : CompleteLines t []
  | ended {line ending behind : Text} {lines : List Text} (hLine : line.IsUnbroken)
      (hEnd : ending.IsKnownEnd behind) (hBehind : CompleteLines behind lines) :
      CompleteLines (line ++ (ending ++ behind)) (line :: lines)

/-- The lines of a text that are given out before more of it is known. -/
def Text.completeLines (t : Text) : List Text :=
  (t.foldl (LineSplitter.push isSourceBreak) {}).lines

namespace Text

variable {line ending behind t : Text}

theorem foldl_push_of_isUnbroken (h : line.IsUnbroken) :
    line.foldl (LineSplitter.push isSourceBreak) {} = ⟨[], line.reverse, false⟩ := by
  have hKept := foldl_push_of_unbroken h.not_isSourceBreak [] []
  rwa [List.append_nil] at hKept

theorem completeLines_of_isUnbroken (h : line.IsUnbroken) : line.completeLines = [] := by
  rw [completeLines, foldl_push_of_isUnbroken h]
  rfl

theorem completeLines_ended (hLine : line.IsUnbroken) (hEnd : ending.IsKnownEnd behind) :
    (line ++ (ending ++ behind)).completeLines = line :: behind.completeLines := by
  rw [completeLines, List.foldl_append, foldl_push_of_isUnbroken hLine,
    foldl_of_isKnownEnd hEnd, LineSplitter.foldl_push_behind, LineSplitter.lines_behind,
    List.reverse_reverse]
  rfl

/-- A return at the end of a text leaves its line open. -/
theorem completeLines_return (hLine : line.IsUnbroken) : (line ++ ['\r']).completeLines = [] := by
  rw [completeLines, List.foldl_append, foldl_push_of_isUnbroken hLine]
  rfl

end Text

theorem CompleteLines.lines_prefix {t : Text} {lines : List Text} (h : CompleteLines t lines) :
    lines <+: t.completeLines := by
  induction h with
  | none t => exact List.nil_prefix
  | ended hLine hEnd _ ih =>
    rw [Text.completeLines_ended hLine hEnd]
    exact List.cons_prefix_cons.mpr ⟨rfl, ih⟩

theorem completeLines_text (t : Text) : CompleteLines t t.completeLines := by
  induction hLength : t.length using Nat.strongRecOn generalizing t with
  | ind length ih =>
    rcases Text.isUnbroken_or_ended t with hLine | ⟨line, ending, behind, hLine, hEnd, rfl⟩
    · rw [Text.completeLines_of_isUnbroken hLine]
      exact .none t
    · by_cases hOpen : ending = ['\r'] ∧ behind = []
      · obtain ⟨rfl, rfl⟩ := hOpen
        rw [List.append_nil, Text.completeLines_return hLine]
        exact .none _
      · have hKnown : ending.IsKnownEnd behind :=
          ⟨hEnd, fun hReturn hNil => hOpen ⟨hReturn, hNil⟩⟩
        have hPos := hEnd.length_pos
        have hShorter : behind.length < length := by
          rw [← hLength, List.length_append, List.length_append]
          omega
        rw [Text.completeLines_ended hLine hKnown]
        exact .ended hLine hKnown (ih behind.length hShorter behind rfl)

theorem CompleteLines.take {t : Text} {lines : List Text} (h : CompleteLines t lines) (n : Nat) :
    CompleteLines t (lines.take n) := by
  induction h generalizing n with
  | none t => simpa using CompleteLines.none t
  | ended hLine hEnd _ ih =>
    cases n with
    | zero => exact .none _
    | succ n => exact .ended hLine hEnd (ih n)

/-- Whether the line with the number is complete within the first `k` pieces of a file. -/
def EndsWithin (content : Bytes) (n k : Nat) : Prop :=
  ∃ text held lines, content.take (pieceSize * k) = Utf8.encode text ++ held ∧
    Utf8.IsHeld held ∧ CompleteLines text lines ∧ lines.length = n

/-! ## What a reader sees -/

namespace Feed

variable {content held : Bytes} {text : Text} {k : Nat}

/-- What a reader has been given after some pieces, whatever follows. -/
theorem completeLines_prefix (hTake : content.take (pieceSize * k) = Utf8.encode text ++ held)
    (hHeld : Utf8.IsHeld held) : text.completeLines <+: (ofBytes content).lines := by
  obtain ⟨front, hPieces, hFlatten⟩ := exists_pieces_append content k
  obtain ⟨taken, hFeed⟩ := Utf8.feed_eq_ok_iff.mpr ⟨hTake, hHeld⟩
  rw [← hFlatten] at hFeed
  have hAll := ofPieces_append (s := {}) hFeed none (pieces (content.drop (pieceSize * k)))
  have hPrefix := lines_prefix_ofPieces (stateBehind {} ⟨taken, held, text.reverse⟩) none
    (pieces (content.drop (pieceSize * k)))
  rw [← hAll, ← hPieces] at hPrefix
  have hText : (stateBehind {} ⟨taken, held, text.reverse⟩).splitter.lines = text.completeLines := by
    rw [stateBehind, List.reverse_reverse]
    rfl
  exact hText ▸ hPrefix

/-- A file is in UTF-8, or a reader is given the lines that are complete in front of a piece that
cannot be read. -/
theorem ofBytes_cases (content : Bytes) : (∃ file, content = Utf8.encode file) ∨
    ∃ k text held flaw, content.take (pieceSize * k) = Utf8.encode text ++ held ∧
      Utf8.IsHeld held ∧ ofBytes content = ⟨text.completeLines, some (.notDecoded flaw)⟩ := by
  rcases ofPieces_cases {} (pieces content) with
    ⟨taken, new, hFeed⟩ | ⟨front, back, ⟨taken, held, new⟩, flaw, hPieces, hFeed, hEnd⟩
  · rw [pieces_flatten, ← List.reverse_reverse new] at hFeed
    have hDecode := Utf8.decode_eq_ok_iff.mpr ⟨taken, hFeed⟩
    exact .inl ⟨new.reverse, Utf8.decode_eq_ok_iff_encode.mp hDecode⟩
  · rw [flatten_of_pieces_append hPieces, ← List.reverse_reverse new] at hFeed
    obtain ⟨hTake, hHeld⟩ := Utf8.feed_eq_ok_iff.mp ⟨taken, hFeed⟩
    exact .inr ⟨front.length, new.reverse, held, flaw, hTake, hHeld, hEnd⟩

end Feed

/-! ## Windows -/

namespace CodeBlock

variable {disk : Disk} {path : Path} {content : Bytes} {lines : List Text} {range : LineRange}

theorem excerpt_eq (lines : List Text) (range : LineRange) :
    excerpt lines range = ⟨range, (lines.take range.last).drop (range.first - 1)⟩ := by
  have hSize : range.size = range.last - (range.first - 1) := by
    have hFirst := range.one_le_first
    have hLast := range.first_le_last
    unfold LineRange.size
    omega
  rw [excerpt, hSize, List.drop_take]

theorem length_excerpt (lines : List Text) (range : LineRange) :
    (excerpt lines range).lastLine = range.first - 1 + (excerpt lines range).lines.length := by
  have hFirst := range.one_le_first
  change range.first + (excerpt lines range).lines.length - 1 = _
  omega

/-- What is read if the line behind the range has been given out. -/
theorem read_of_given (hRead : disk.read path = .ok content)
    (hLines : lines <+: (Feed.ofBytes content).lines) (hLength : lines.length = range.last + 1) :
    read disk path range = .ok (excerpt lines range) := by
  obtain ⟨more, hMore⟩ := hLines
  have hWindow : window (Feed.ofBytes content) range =
      .ok ((Feed.ofBytes content).lines.drop (range.first - 1) |>.take range.size) := by
    unfold window
    dsimp only
    cases (Feed.ofBytes content).flaw with
    | none => rfl
    | some flaw =>
      have hEnough : ¬ (Feed.ofBytes content).lines.length ≤ range.last := by
        rw [← hMore, List.length_append]
        omega
      dsimp only
      rw [if_neg hEnough]
  have hExcerpt : excerpt (Feed.ofBytes content).lines range = excerpt lines range := by
    rw [excerpt_eq, excerpt_eq, ← hMore, List.take_append_of_le_length (by omega)]
  unfold read
  simp only [Disk.feed?_of_read hRead, hWindow]
  exact congrArg Except.ok hExcerpt

/-- A read fails if the file is not in UTF-8 and the line behind the range is complete in front of no
piece that cannot be read. -/
theorem read_of_flaw (hRead : disk.read path = .ok content)
    (hNone : ∀ k, ¬ EndsWithin content (range.last + 1) k)
    (hFile : ∀ file, content ≠ Utf8.encode file) :
    ∃ fault, read disk path range = .error fault ∧ fault.kind = .notFound := by
  rcases Feed.ofBytes_cases content with
    ⟨file, hEncode⟩ | ⟨k, text, held, flaw, hTake, hHeld, hFeed⟩
  · exact absurd hEncode (hFile file)
  · have hShort : text.completeLines.length ≤ range.last := by
      by_contra hEnough
      refine hNone k ⟨text, held, text.completeLines.take (range.last + 1), hTake, hHeld,
        (completeLines_text text).take _, ?_⟩
      rw [List.length_take]
      omega
    refine ⟨.sourceNotDecoded path flaw, ?_, rfl⟩
    unfold read window
    simp only [Disk.feed?_of_read hRead, hFeed, if_pos hShort]
    rfl

/-- What a reader is given of a block. A file in UTF-8 gives the lines of the range, as far as it has
them. So does any other file, if the line behind the range is complete within some pieces, which can
be read as far as what the decoder holds at their end; all else that cannot be read in a piece that is
pulled, or at the end of the file, fails the read as a whole. -/
theorem read_window (hRead : disk.read path = .ok content) (range : LineRange) :
    (∀ file lines, content = Utf8.encode file → SourceLines file lines →
      ∃ block, read disk path range = .ok block ∧ block.range = range ∧
        block.lines = (lines.take range.last).drop (range.first - 1) ∧
        block.lastLine = range.first - 1 + block.lines.length) ∧
    (∀ k text held lines, content.take (pieceSize * k) = Utf8.encode text ++ held →
      Utf8.IsHeld held → CompleteLines text lines → lines.length = range.last + 1 →
      read disk path range = .ok ⟨range, (lines.take range.last).drop (range.first - 1)⟩) ∧
    (∀ j, (∀ k ≤ j, ¬ EndsWithin content (range.last + 1) k) →
      ¬ Utf8.IsReadable (content.take (pieceSize * (j + 1))) →
      ∃ fault, read disk path range = .error fault ∧ fault.kind = .notFound) ∧
    ((∀ k, ¬ EndsWithin content (range.last + 1) k) → (∀ file, content ≠ Utf8.encode file) →
      ∃ fault, read disk path range = .error fault ∧ fault.kind = .notFound) := by
  refine ⟨?_, ?_, ?_, read_of_flaw hRead⟩
  · rintro file lines rfl hLines
    have hBlock := read_of_decode hRead (Utf8.decode_encode file) range
    rw [hLines.lines_eq] at hBlock
    refine ⟨_, hBlock, rfl, ?_, length_excerpt lines range⟩
    rw [excerpt_eq]
  · intro k text held lines hTake hHeld hComplete hLength
    have hGiven := hComplete.lines_prefix.trans (Feed.completeLines_prefix hTake hHeld)
    rw [read_of_given hRead hGiven hLength, excerpt_eq]
  · intro j hEarlier hFlaw
    refine read_of_flaw hRead (fun k => ?_) fun file hFile => ?_
    · by_cases hk : k ≤ j
      · exact hEarlier k hk
      · rintro ⟨text, held, lines, hTake, hHeld, -⟩
        -- the pieces up to the flaw stand in front of all later ones
        have hPrefix : content.take (pieceSize * (j + 1)) <+: content.take (pieceSize * k) :=
          List.take_prefix_take_left (Nat.mul_le_mul_left _ (by omega))
        obtain ⟨back, hBack⟩ := hPrefix
        have hLater : Utf8.IsReadable (content.take (pieceSize * k)) := ⟨text, held, hTake, hHeld⟩
        rw [← hBack] at hLater
        exact hFlaw hLater.front
    · have hWhole : Utf8.IsReadable (content.take (pieceSize * (j + 1)) ++
          content.drop (pieceSize * (j + 1))) := by
        rw [List.take_append_drop, hFile]
        exact Utf8.isReadable_encode file
      exact hFlaw hWhole.front

theorem read_window_cutCharacter :
    let content := Utf8.encode "a\r\nb\n€".toList ++ [0xE2, 0x82]
    read (sourcesOf content).disk (Path.ofText ['f']) ⟨1, 1, by decide, le_rfl⟩ =
      .ok ⟨⟨1, 1, by decide, le_rfl⟩, [['a']]⟩ := by
  have hHeld : Utf8.IsHeld [0xE2, 0x82] := .inl ⟨'€', [0xAC], by decide, by decide⟩
  have hRead : (sourcesOf (Utf8.encode "a\r\nb\n€".toList ++ [0xE2, 0x82])).disk.read
      (Path.ofText ['f']) = .ok (Utf8.encode "a\r\nb\n€".toList ++ [0xE2, 0x82]) := rfl
  obtain ⟨-, hWindow, -, -⟩ := read_window hRead ⟨1, 1, by decide, le_rfl⟩
  exact hWindow 1 "a\r\nb\n€".toList [0xE2, 0x82] [['a'], ['b']] (by decide) hHeld
    (completeLines_text _) rfl

/-! ## Surrogates -/

/-- Three lines, of which the last ends in the first two bytes of a surrogate. -/
def halfSurrogate : Bytes := Utf8.encode "a\nb\nc".toList ++ [0xED, 0xA0]

/-- The first piece is pulled, and its bytes are not those of characters, of which the last may be
incomplete; but the first line is read. -/
theorem read_halfSurrogate :
    (∀ k ≤ 0, ¬ EndsWithin halfSurrogate 2 k) ∧
    (∀ text held, Utf8.IsPart held →
      halfSurrogate.take (pieceSize * (0 + 1)) ≠ Utf8.encode text ++ held) ∧
    read (sourcesOf halfSurrogate).disk (Path.ofText ['f']) ⟨1, 1, by decide, le_rfl⟩ =
      .ok ⟨⟨1, 1, by decide, le_rfl⟩, [['a']]⟩ := by
  refine ⟨?_, ?_, by decide +kernel⟩
  · rintro k hk ⟨text, held, lines, hTake, -, hComplete, hLength⟩
    obtain rfl : k = 0 := Nat.le_zero.mp hk
    obtain ⟨hText, -⟩ := List.append_eq_nil_iff.mp hTake.symm
    have hDecode := Utf8.decode_encode text
    rw [hText] at hDecode
    cases hDecode
    have hPrefix := hComplete.lines_prefix.length_le
    rw [hLength] at hPrefix
    exact absurd hPrefix (by decide)
  · intro text held hPart hTake
    have hHalf : Utf8.IsHalfSurrogate [0xED, 0xA0] := ⟨0xA0, rfl, by decide, by decide⟩
    have hFeed : Utf8.feed {} (halfSurrogate.take (pieceSize * (0 + 1))) =
        .ok ⟨7, [0xED, 0xA0], "c\nb\na".toList⟩ := rfl
    obtain ⟨taken, hOther⟩ := Utf8.feed_eq_ok_iff.mpr ⟨hTake, .inl hPart⟩
    have hPending := congrArg (Except.map Utf8.Decoder.pending) (hFeed.symm.trans hOther)
    obtain rfl : [0xED, 0xA0] = held := Except.ok.inj hPending
    exact hHalf.not_isPart hPart

end CodeBlock

end Excerpt
