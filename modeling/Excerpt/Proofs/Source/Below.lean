import Excerpt.Proofs.Feed
import Excerpt.Proofs.Lines
import Excerpt.Proofs.Outcome
import Excerpt.Proofs.Render.Shift
import Excerpt.Proofs.Selector.Numbers
import Excerpt.Proofs.Source.Marker
import Excerpt.Source.Block

/-!
# A source file with other lines above it

When complete lines are put above those of a file, a marker is found as many lines further down,
unless one of the new lines has a marker with its identifier, and a range that is moved with it
reads the same lines. The lines of a marker are counted from the line that it stands on; only
their refusal, which names them, depends on where that is.

* `Marker.find?_below`: the first marker with an identifier.
* `Marker.outcome_locate`: what is looked for in a file that can be read.
* `LineRange.of_in_order`, `LineRange.alike_of_reversed`: a range further down, and its refusal.
* `Marker.rangeAt_cases`: the lines of a marker further down.
* `CodeBlock.excerpt_below`: the lines of a range.
-/

namespace Excerpt

/-! ## Markers -/

namespace Marker

theorem find?_add (id : Text) (n k : Nat) (lines : List Text) :
    find? id (n + k) lines = (find? id n lines).map fun (at_, m) => (at_ + k, m) := by
  induction lines generalizing n with
  | nil => rfl
  | cons line rest ih =>
    unfold find?
    cases (scan line).find? (fun m => Text.trim m.id == id) with
    | some m => rfl
    | none => rw [Nat.add_right_comm, ih]

theorem find?_below {id : Text} {above : List Text} (h : ∀ line ∈ above, ¬ Names id line)
    (lines : List Text) : find? id 1 (above ++ lines) =
      (find? id 1 lines).map fun (n, m) => (n + above.length, m) := by
  rw [find?_append h, find?_add]

theorem le_of_find? {id : Text} {start n : Nat} {m : Marker} {lines : List Text}
    (h : find? id start lines = some (n, m)) : start ≤ n := by
  induction lines generalizing start with
  | nil => cases h
  | cons line rest ih =>
    unfold find? at h
    split at h
    · cases h
      exact Nat.le_refl _
    · have := ih h
      omega

/-- The lines that a marker on line `n` names. -/
def rangeAt (n : Nat) (m : Marker) : Except Fault LineRange :=
  match readSpan "marker range".toList m.span with
  | .error fault => .error fault
  | .ok (first, last) => LineRange.of ((n + first : Nat) : Int) ((n + last : Nat) : Int)

theorem outcome_locate_of_find? {disk : Disk} {path : Path} {feed : Feed} {id : Text} {n : Nat}
    {m : Marker} (hFeed : disk.feed? path = .ok feed)
    (hFind : find? id 1 feed.lines = some (n, m)) :
    (locate disk path id).outcome = m.rangeAt n := by
  unfold locate rangeAt
  simp only [hFeed, hFind]
  cases readSpan "marker range".toList m.span with
  | error fault => rfl
  | ok span => rfl

theorem outcome_locate {disk : Disk} {path : Path} {content : Bytes} {file : Text}
    (hRead : disk.read path = .ok content) (hFile : Utf8.decode content = .ok file) (id : Text) :
    (locate disk path id).outcome =
      match find? id 1 (Text.lines isSourceBreak file) with
      | none => .error (.blockNotFound id path)
      | some (n, m) => m.rangeAt n := by
  have hFeed := Disk.feed?_of_read hRead
  rw [Feed.ofBytes_of_decode hFile] at hFeed
  cases hFind : find? id 1 (Text.lines isSourceBreak file) with
  | none =>
    unfold locate
    simp only [hFeed, hFind]
    rfl
  | some found => exact outcome_locate_of_find? hFeed hFind

end Marker

/-! ## Ranges -/

namespace LineRange

/-- Whether a number can be written, but not the one `k` lines further down. -/
def Outgrows (k n : Nat) : Prop := n < numberBound ∧ numberBound ≤ n + k

theorem of_in_order {first last : Nat} (hFirst : 1 ≤ first) (h : first ≤ last) (k : Nat) :
    ∃ r : LineRange, of first last = .ok r ∧ r.last = last ∧
      of ((first + k : Nat) : Int) ((last + k : Nat) : Int) = .ok (r.shift k) := by
  refine ⟨⟨first, last, hFirst, h⟩, ?_, rfl, ?_⟩
  · exact of_eq_ok_iff.mpr ⟨rfl, rfl⟩
  · exact of_eq_ok_iff.mpr ⟨rfl, rfl⟩

theorem of_reversed {first last : Nat} (h : last < first) :
    ∃ fault, of first last = .error fault ∧
      fault.kind = if numberBound ≤ first then .value else .parse := by
  refine ⟨refuse first last, ?_, ?_⟩
  · unfold of
    rw [dif_neg (by omega)]
  · have hWords : (isUnwritable first || isUnwritable last) = decide (numberBound ≤ first) := by
      rw [isUnwritable_natCast, isUnwritable_natCast, ← Bool.decide_or]
      exact decide_eq_decide.mpr (by omega)
    unfold refuse
    rw [hWords]
    by_cases hFirst : numberBound ≤ first
    · simp [hFirst, Fault.kind]
    · simp only [decide_eq_true_eq, if_neg hFirst]
      split <;> rfl

/-- Further down, the refusal of a reversed range is of another kind exactly if its larger end
outgrows the numbers that can be written. -/
theorem alike_of_reversed {first last : Nat} (h : last < first) (k : Nat) :
    ∃ fault fault', of first last = .error fault ∧
      of ((first + k : Nat) : Int) ((last + k : Nat) : Int) = .error fault' ∧
      (fault'.kind = fault.kind ↔ ¬ Outgrows k first) := by
  obtain ⟨fault, hFault, hKind⟩ := of_reversed h
  obtain ⟨fault', hFault', hKind'⟩ := of_reversed (Nat.add_lt_add_right h k)
  refine ⟨fault, fault', hFault, hFault', ?_⟩
  rw [hKind, hKind']
  unfold Outgrows
  by_cases hFirst : numberBound ≤ first
  · have hMore : numberBound ≤ first + k := Nat.le_add_right_of_le hFirst
    simp [hFirst, hMore]
  · by_cases hMore : numberBound ≤ first + k
    · simp [hFirst, hMore]
    · simp [hFirst, hMore]

end LineRange

/-- What becomes of the lines of a marker `k` lines further down: the same refusal, another one
of a reversed range, or the range moved along. -/
theorem Marker.rangeAt_cases (marker : Marker) {n : Nat} (hn : 1 ≤ n) (k : Nat) :
    (∃ fault, readSpan "marker range".toList marker.span = .error fault ∧
      marker.rangeAt n = .error fault ∧ marker.rangeAt (n + k) = .error fault) ∨
    (∃ first last fault fault', readSpan "marker range".toList marker.span = .ok (first, last) ∧
      last < first ∧ marker.rangeAt n = .error fault ∧ marker.rangeAt (n + k) = .error fault' ∧
      (fault'.kind = fault.kind ↔ ¬ LineRange.Outgrows k (n + first))) ∨
    (∃ first last r, readSpan "marker range".toList marker.span = .ok (first, last) ∧
      first ≤ last ∧ r.last = n + last ∧ marker.rangeAt n = .ok r ∧
      marker.rangeAt (n + k) = .ok (r.shift k)) := by
  unfold rangeAt
  cases readSpan "marker range".toList marker.span with
  | error fault => exact .inl ⟨fault, rfl, rfl, rfl⟩
  | ok span =>
    obtain ⟨first, last⟩ := span
    dsimp only
    rw [Nat.add_right_comm n k first, Nat.add_right_comm n k last]
    by_cases hOrder : last < first
    · have hEnds : n + last < n + first := Nat.add_lt_add_left hOrder n
      obtain ⟨fault, fault', hFault, hFault', hKind⟩ := LineRange.alike_of_reversed hEnds k
      exact .inr (.inl ⟨first, last, fault, fault', rfl, hOrder, hFault, hFault', hKind⟩)
    · have hEnds : n + first ≤ n + last := by omega
      have hFirst : 1 ≤ n + first := by omega
      obtain ⟨r, hr, hLast, hr'⟩ := LineRange.of_in_order hFirst hEnds k
      exact .inr (.inr ⟨first, last, r, rfl, by omega, hLast, hr, hr'⟩)

/-! ## Blocks -/

namespace CodeBlock

/-- The lines that a range names. -/
def excerpt (lines : List Text) (range : LineRange) : CodeBlock :=
  ⟨range, (lines.drop (range.first - 1)).take range.size⟩

theorem read_of_decode {disk : Disk} {path : Path} {content : Bytes} {file : Text}
    (hRead : disk.read path = .ok content) (hFile : Utf8.decode content = .ok file)
    (range : LineRange) :
    read disk path range = .ok (excerpt (Text.lines isSourceBreak file) range) := by
  unfold read
  rw [Disk.feed?_of_read hRead, Feed.ofBytes_of_decode hFile]
  rfl

theorem excerpt_below (above lines : List Text) (range : LineRange) :
    excerpt (above ++ lines) (range.shift above.length) =
      (excerpt lines range).shift above.length := by
  have hFirst := range.one_le_first
  have hSize : (range.shift above.length).size = range.size := by
    simp only [LineRange.size, LineRange.shift]
    omega
  have hSkip : (range.shift above.length).first - 1 = above.length + (range.first - 1) := by
    simp only [LineRange.shift]
    omega
  unfold excerpt shift
  rw [hSize, hSkip, List.drop_append, List.drop_of_length_le (by omega)]
  simp

end CodeBlock

end Excerpt
