import Excerpt.Disk
import Excerpt.Text.Lines

/-!
# The feed of a source file

A source file is taken from the disk in pieces and decoded piece by piece while its lines are
pulled. A piece that is not UTF-8 fails as a whole, and so does one at which the file breaks off,
but the lines that were complete before it have already been given out. So what a reader sees is
the lines up to the first flaw, and whoever stops pulling before that never learns of it.

* `ofBytes_nil`: an empty file feeds no lines.
* `pieces_flatten`: the pieces are the content, in order.
* `lines_prefix_ofPieces`: a line that is complete is given out, whatever follows.
* `feed?_of_read`: a file that is read to its end feeds its whole content.
-/

namespace Excerpt

/-- The number of bytes that are taken at once. -/
def pieceSize : Nat := 8192

set_option linter.unusedVariables false in
/-- The content in pieces, of which only the last may be short. -/
def pieces (content : Bytes) : List Bytes :=
  if h : content = [] then []
  else content.take pieceSize :: pieces (content.drop pieceSize)
termination_by content.length
decreasing_by
  have := List.length_pos_iff.mpr h
  simp [pieceSize]
  omega

/-- Why no more lines can be pulled: a piece is not UTF-8, or the file breaks off. -/
inductive FeedFlaw where
  | notDecoded (flaw : Utf8.Flaw)
  | notRead (cause : SystemError)
  deriving DecidableEq, Repr

/-- The lines that can be pulled, without their ends, and the flaw that is met behind them. -/
structure Feed where
  lines : List Text
  flaw : Option FeedFlaw
  deriving DecidableEq, Repr

/-- A reader between two pieces: the bytes of an incomplete code point, and the lines. -/
structure FeedState where
  pending : Bytes := []
  splitter : LineSplitter := {}

namespace FeedState

/-- The decoder that takes the next piece behind the bytes that are held. -/
def decoder (s : FeedState) : Utf8.Decoder := ⟨s.pending.length, s.pending, []⟩

/-- Takes one piece. -/
def take (s : FeedState) (piece : Bytes) : Except Utf8.Flaw FeedState :=
  match Utf8.feed s.decoder piece with
  | .error flaw => .error flaw
  | .ok d => .ok ⟨d.pending, d.text.reverse.foldl (LineSplitter.push isSourceBreak) s.splitter⟩

/-- The end of the file. -/
def finish (s : FeedState) : Feed :=
  match Utf8.finish s.decoder with
  | .error flaw => ⟨s.splitter.lines, some (.notDecoded flaw)⟩
  | .ok _ => ⟨s.splitter.finish, none⟩

/-- The end of what can be read of the file. -/
def stop (s : FeedState) : Option SystemError → Feed
  | none => s.finish
  | some cause => ⟨s.splitter.lines, some (.notRead cause)⟩

end FeedState

namespace Feed

/-- What a reader in the given state sees of the pieces, and of what breaks off behind them. -/
def ofPieces (s : FeedState) (broken : Option SystemError) : List Bytes → Feed
  | [] => s.stop broken
  | piece :: rest =>
    match s.take piece with
    | .error flaw => ⟨s.splitter.lines, some (.notDecoded flaw)⟩
    | .ok s' => ofPieces s' broken rest

/-- What a reader sees of what comes through of a file. -/
def ofTransfer (t : Transfer) : Feed := ofPieces {} t.broken (pieces t.content)

/-- What a reader sees of a file. -/
def ofBytes (content : Bytes) : Feed := ofTransfer { content }

/-! ## Laws -/

theorem pieces_flatten (content : Bytes) : (pieces content).flatten = content := by
  induction content using pieces.induct with
  | case1 => simp [pieces]
  | case2 content h ih =>
    rw [pieces, dif_neg h, List.flatten_cons, ih, List.take_append_drop]

theorem ofBytes_nil : ofBytes [] = ⟨[], none⟩ := by
  simp [ofBytes, ofTransfer, pieces, ofPieces, FeedState.stop, FeedState.finish,
    FeedState.decoder, Utf8.finish, LineSplitter.finish, LineSplitter.lines]

theorem lines_prefix_foldl (s : LineSplitter) (t : Text) :
    s.lines <+: (t.foldl (LineSplitter.push isSourceBreak) s).lines := by
  induction t generalizing s with
  | nil => exact List.prefix_rfl
  | cons c rest ih => exact (LineSplitter.push_lines_prefix isSourceBreak s c).trans (ih _)

theorem lines_prefix_take {s s' : FeedState} {piece : Bytes} (h : s.take piece = .ok s') :
    s.splitter.lines <+: s'.splitter.lines := by
  unfold FeedState.take at h
  split at h
  · cases h
  · cases h
    exact lines_prefix_foldl _ _

theorem lines_prefix_stop (s : FeedState) (broken : Option SystemError) :
    s.splitter.lines <+: (s.stop broken).lines := by
  cases broken with
  | some cause => exact List.prefix_rfl
  | none =>
    unfold FeedState.stop FeedState.finish
    dsimp only
    split
    · exact List.prefix_rfl
    · unfold LineSplitter.finish
      split
      · exact LineSplitter.lines_close _ ▸ List.prefix_append _ _
      · exact List.prefix_rfl

theorem lines_prefix_ofPieces (s : FeedState) (broken : Option SystemError) (rest : List Bytes) :
    s.splitter.lines <+: (ofPieces s broken rest).lines := by
  induction rest generalizing s with
  | nil => exact lines_prefix_stop s broken
  | cons piece rest ih =>
    unfold ofPieces
    cases h : s.take piece with
    | error flaw => exact List.prefix_rfl
    | ok s' => exact (lines_prefix_take h).trans (ih s')

end Feed

namespace Disk

/-- What a reader sees of the file, if it can be opened. -/
def feed? (d : Disk) (p : Path) : Except OpenError Feed := (d.openToRead p).map Feed.ofTransfer

theorem feed?_of_read {d : Disk} {p : Path} {content : Bytes} (h : d.read p = .ok content) :
    d.feed? p = .ok (Feed.ofBytes content) := by
  unfold read at h
  split at h
  · cases h
  · rename_i hOpened
    cases h
    rw [feed?, hOpened]
    rfl
  · cases h

theorem feed?_congr {d d' : Disk} {p : Path} (h : d'.read p = d.read p) :
    d'.feed? p = d.feed? p := by
  rw [feed?, feed?, openToRead_eq_of_read h]

end Disk

end Excerpt
