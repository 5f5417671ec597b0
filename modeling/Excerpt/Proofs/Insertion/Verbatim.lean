import Excerpt.Proofs.Command.Roundtrip
import Excerpt.Proofs.Insertion.Stability
import Excerpt.Proofs.Source.Lines

/-!
# Commands without suffixes

A command without suffixes inserts the lines that it names as they stand in the file, up to the end
of the file if there are fewer. The lines of a marker are counted from the line on which it stands.

There is one exception. A range whose end has too many digits to be written is inserted by nobody
who puts the insertion into words. A command cannot name such a range, but a marker can come to it
from the line that it stands on.

* `Rendering.text_plain`: lines without selectors and options are rendered as they are.
* `outcome_run_plain`: what a command without suffixes inserts, once its range is known.
* `expandLine_verbatim`: both kinds of commands, by the lines of the file.
* `not_verbatim_longMarker`: the exception.
-/

namespace Excerpt

/-! ## Plain rendering -/

namespace Rendering

theorem line_plain (style : CommentStyle) (block : CodeBlock) (n : Nat) (raw : Text) :
    line ⟨style, {}, {}, {}⟩ block n raw = .ok (some raw) := by
  have hApply : Highlights.apply {} raw n = ([], raw) := Highlights.apply_unmarked rfl rfl
  have hFinished : finished ⟨style, {}, {}, {}⟩ n raw = .ok raw := by
    unfold finished
    rw [hApply]
    change (shiftIndent raw 0).map _ = _
    rw [shiftIndent_zero]
    rfl
  unfold line edited Edits.firstMatch
  simp [hFinished, Except.map]

theorem text_plain (style : CommentStyle) (block : CodeBlock) :
    text ⟨style, {}, {}, {}⟩ block = .ok (block.lines.flatMap (· ++ ['\n'])) := by
  have hEach : (block.numbered.mapM fun numbered =>
        line ⟨style, {}, {}, {}⟩ block numbered.1 numbered.2) =
      .ok (block.numbered.map fun numbered => some numbered.2) := by
    simp only [line_plain]
    exact List.mapM_pure
  have hRaw : (block.numbered.map fun numbered => some numbered.2).filterMap id =
      block.lines := by
    unfold CodeBlock.numbered
    refine List.ext_getElem ?_ fun i _ _ => ?_
    · simp
    · simp
  have hLines : lines ⟨style, {}, {}, {}⟩ block = .ok block.lines := by
    rw [lines_eq_map, hEach, ← hRaw]
    rfl
  unfold text
  rw [hLines]
  rfl

end Rendering

/-! ## What is inserted -/

/-- The lines from one to another, each with its end, between fences. -/
def verbatim (tag : Text) (lines : List Text) (first last : Nat) : Text :=
  fenceMark ++ tag ++ ['\n'] ++ ((lines.take last).drop (first - 1)).flatMap (· ++ ['\n']) ++
    fenceMark

theorem CodeBlock.lines_excerpt (lines : List Text) (range : LineRange) :
    (excerpt lines range).lines = (lines.take range.last).drop (range.first - 1) := by
  have hSize : range.size = range.last - (range.first - 1) := by
    have hFirst := range.one_le_first
    have hOrder := range.first_le_last
    unfold LineRange.size
    omega
  unfold excerpt
  rw [List.drop_take, hSize]

namespace Insertion

variable {sources : Sources} {line : Text} {c : Command} {range : LineRange} {content : Bytes}
  {file : Text} {recorder : Recorder}

theorem fenced_plain (sources : Sources) (c : Command) (lines : List Text) (range : LineRange) :
    (assemble sources c ⟨{}, {}, {}⟩ (CodeBlock.excerpt lines range)).fenced =
      .ok (verbatim (sources.languages.tagOf c.filename) lines range.first range.last) := by
  have hText := Rendering.text_plain (CommentStyle.ofTag (sources.languages.tagOf c.filename))
    (CodeBlock.excerpt lines range)
  unfold fenced text
  change (Rendering.text ⟨CommentStyle.ofTag (sources.languages.tagOf c.filename), {}, {}, {}⟩
    (CodeBlock.excerpt lines range)).map (fence · (sources.languages.tagOf c.filename)) = _
  rw [hText, CodeBlock.lines_excerpt]
  simp [Except.map, fence_eq, verbatim]

/-- What a command without suffixes inserts from a file that can be read. -/
theorem outcome_run_plain (hParse : Command.parse line = .ok c) (hPlain : c.suffixes = {})
    (hRange : (resolve sources c).outcome = .ok range)
    (hRead : sources.disk.read (c.sourcePath sources.root) = .ok content)
    (hFile : Utf8.decode content = .ok file) (recorder : Recorder) :
    (sources.run recorder line).outcome =
      if recorder = .wording ∧ numberBound ≤ range.last then .error .numberTooLong
      else .ok (verbatim (sources.languages.tagOf c.filename) (Text.lines isSourceBreak file)
        range.first range.last) := by
  have hWanted : c.suffixes.read.outcome = .ok ⟨{}, {}, {}⟩ := by
    rw [hPlain]
    rfl
  have hFetch : (fetch sources c).outcome =
      .ok (CodeBlock.excerpt (Text.lines isSourceBreak file) range) := by
    rw [outcome_fetch, hRange]
    exact CodeBlock.read_of_decode hRead hFile range
  rw [outcome_run sources (CommandKind.ofLine?_of_parse hParse),
    outcome_build_of_parse sources hParse, hWanted]
  change settle recorder line ((fetch sources c).outcome.map _) = _
  rw [hFetch]
  change toldTo recorder _ = _
  rw [toldTo_eq, fenced_plain]
  rfl

end Insertion

/-! ## By the lines of the file -/

/-- Whether the file of the name can be read and has the lines. -/
def Sources.Holds (sources : Sources) (name : Text) (lines : List Text) : Prop :=
  ∃ content file, sources.disk.read (sources.root.join (Path.ofText name)) = .ok content ∧
    Utf8.decode content = .ok file ∧ SourceLines file lines

/-- Whether some command names the file. -/
def Command.IsNameable (name : Text) : Prop := ∃ line c, parse line = .ok c ∧ c.filename = name

section

variable {sources : Sources} {name : Text} {lines : List Text}

/-- A command without suffixes is read back from its text. -/
theorem Command.parse_plain {address : Address} (hName : IsNameable name)
    (hAddress : address.IsWritable) :
    parse (text ⟨name, address, {}⟩) = .ok ⟨name, address, {}⟩ := by
  obtain ⟨line, c, hParse, rfl⟩ := hName
  have hWritable := isWritable_of_parse hParse
  have hPlain : IsWritable ⟨c.filename, address, {}⟩ :=
    ⟨hWritable.nameTrimmed, hWritable.nameNotEmpty, hWritable.nameInTarget, hAddress,
      fun p hp => by cases hp⟩
  have hNone : (([] : List (Text × Suffixes.Piece)).map Prod.snd).Perm [] := .refl []
  have hGap : IsGap [] := ⟨rfl, by simp⟩
  have hBack := parse_text hPlain hNone (fun x hx => by cases hx) hGap
  simpa [Suffixes.textOf] using hBack

/-- An identifier that a marker has can be written behind a colon. -/
theorem Marker.IsFirst.isWritable {id : Text} {n : Nat} {m : Marker}
    (h : IsFirst id 1 lines n m) (hNe : id ≠ []) : (Address.block id).IsWritable := by
  obtain ⟨-, line, -, -, -, ⟨rfl, before, ⟨hWritable, -⟩, -⟩, -⟩ := h
  refine ⟨hNe, Text.trim_trim m.id, fun c hc => ?_⟩
  obtain ⟨hColon, hOpen, hClose⟩ := hWritable.id c ((Text.infix_of_trim m.id).mem hc)
  exact ⟨⟨hOpen, hClose⟩, hColon⟩

/-- A command that names its lines by number. -/
theorem outcome_run_lines (hFile : sources.Holds name lines) {line : Text}
    {range : LineRange} (hParse : Command.parse line = .ok ⟨name, .lines range, {}⟩)
    (recorder : Recorder) : (sources.run recorder line).outcome =
      if recorder = .wording ∧ numberBound ≤ range.last then .error .numberTooLong
      else .ok (verbatim (sources.languages.tagOf name) lines range.first range.last) := by
  obtain ⟨content, file, hRead, hDecode, hLines⟩ := hFile
  rw [Insertion.outcome_run_plain hParse rfl rfl hRead hDecode, hLines.lines_eq]

/-- A command that names its lines by a marker. -/
theorem outcome_run_first (hFile : sources.Holds name lines) {line id : Text}
    (hParse : Command.parse line = .ok ⟨name, .block id, {}⟩) {n first last : Nat} {m : Marker}
    (hFirst : Marker.IsFirst id 1 lines n m) (hSpans : m.Spans first last) (hOrder : first ≤ last)
    (recorder : Recorder) : (sources.run recorder line).outcome =
      if recorder = .wording ∧ numberBound ≤ n + last then .error .numberTooLong
      else .ok (verbatim (sources.languages.tagOf name) lines (n + first) (n + last)) := by
  obtain ⟨content, file, hRead, hDecode, hLines⟩ := hFile
  have hFind := Marker.find?_eq_some_iff.mpr hFirst
  obtain ⟨range, hRange, hStart, hEnd⟩ :=
    Marker.rangeAt_of_spans hSpans hOrder (Marker.le_of_find? hFind)
  have hResolve : (Insertion.resolve sources ⟨name, .block id, {}⟩).outcome = .ok range := by
    change (Marker.locate sources.disk (sources.root.join (Path.ofText name)) id).outcome = _
    rw [Marker.outcome_locate hRead hDecode, hLines.lines_eq, hFind]
    exact hRange
  rw [Insertion.outcome_run_plain hParse rfl hResolve hRead hDecode, hLines.lines_eq,
    hStart, hEnd]

/-- A command without suffixes inserts the lines that it names as they stand in the file, also those
of the first marker with its identifier; but no lines whose last number cannot be written, for who
puts it into words. -/
theorem expandLine_verbatim (hFile : sources.Holds name lines) (hName : Command.IsNameable name)
    (recorder : Recorder) :
    (∀ range : LineRange, range.last < numberBound →
      (sources.run recorder (Command.text ⟨name, .lines range, {}⟩)).outcome =
        .ok (verbatim (sources.languages.tagOf name) lines range.first range.last)) ∧
    (∀ id n m first last, id ≠ [] → Marker.IsFirst id 1 lines n m → m.Spans first last →
      first ≤ last →
      (sources.run recorder (Command.text ⟨name, .block id, {}⟩)).outcome =
        if recorder = .wording ∧ numberBound ≤ n + last then .error .numberTooLong
        else .ok (verbatim (sources.languages.tagOf name) lines (n + first) (n + last))) := by
  constructor
  · intro range hShort
    have hAddress : (Address.lines range).IsWritable := hShort
    have hParse := Command.parse_plain hName hAddress
    rw [outcome_run_lines hFile hParse, if_neg]
    rintro ⟨-, hLong⟩
    exact absurd hShort (Nat.not_lt_of_le hLong)
  · intro id n m first last hNe hFirst hSpans hOrder
    have hParse := Command.parse_plain hName (hFirst.isWritable hNe)
    exact outcome_run_first hFile hParse hFirst hSpans hOrder recorder

end

/-- A marker for the two lines below it, one of which ends with a return alone. -/
def returnFile : Text := (letterMarker 1 2).text ++ ['\r', '\n', 'x', '\r', 'y', '\n', 'z']

/-- The two lines, by the marker and, together with what is left of the file, by number. -/
theorem expandLine_verbatim_returnFile :
    ((sourcesWith returnFile).run .wording markerCommand).outcome =
      .ok (fenceMark ++ ['\n', 'x', '\n', 'y', '\n'] ++ fenceMark) ∧
    ((sourcesWith returnFile).run .wording "insert_code(f:2-9)".toList).outcome =
      .ok (fenceMark ++ ['\n', 'x', '\n', 'y', '\n', 'z', '\n'] ++ fenceMark) := by
  have hFile : (sourcesWith returnFile).Holds ['f']
      [(letterMarker 1 2).text, ['x'], ['y'], ['z']] :=
    ⟨_, returnFile, rfl, Utf8.decode_asciiBytes (by decide), sourceLines_iff.mpr (by decide)⟩
  obtain ⟨hLines, hMarker⟩ :=
    expandLine_verbatim hFile ⟨markerCommand, _, parse_markerCommand, rfl⟩ .wording
  have hTen := ten_le_numberBound
  have hShort : 9 < numberBound := hTen
  constructor
  · have hFirst := Marker.find?_eq_some_iff.mp (find?_letterMarker 1 2 [['x'], ['y'], ['z']])
    have hSpans : (letterMarker 1 2).Spans 1 2 := spans_letterMarker (by omega) (by omega)
    have hText := hMarker ['a'] 1 _ 1 2 (by decide) hFirst hSpans (by decide)
    rw [if_neg (fun h => absurd h.2 (Nat.not_le_of_lt (by omega)))] at hText
    exact hText
  · have hText := hLines ⟨2, 9, by decide, by decide⟩ hShort
    exact hText

/-! ## The exception -/

/-- A marker whose range ends on the first line whose number cannot be written, if the marker is on
the first line. -/
def longMarker : Marker := letterMarker 1 (numberBound - 1)

/-- The marker with one line below it. -/
def longFile : Text := longMarker.text ++ ['\n', 'x', '\n']

theorem sourceLines_above {line : Text} (h : line.IsUnbroken) :
    SourceLines (line ++ ['\n', 'x', '\n']) [line, ['x']] :=
  have hBelow : Text.IsUnbroken ['x'] := ⟨by decide, by decide⟩
  .ended h (.inl rfl) (.ended hBelow (.inl rfl) .none)

theorem holds_longFile : (sourcesWith longFile).Holds ['f'] [longMarker.text, ['x']] := by
  have hEnd : ∀ c ∈ ['\n', 'x', '\n'], c.toNat < 128 := by simp
  have hAscii : Utf8.IsAscii longFile := by
    intro c hc
    rcases List.mem_append.mp hc with hMarker | hBehind
    · exact (mem_letterMarker hMarker).1
    · exact hEnd c hBehind
  have hUnbroken : longMarker.text.IsUnbroken := by
    constructor
    · intro hMem
      obtain ⟨-, hBreak, -⟩ := mem_letterMarker hMem
      cases hBreak
    · exact fun hMem => (mem_letterMarker hMem).2.2 rfl
  exact ⟨_, longFile, rfl, Utf8.decode_asciiBytes hAscii, sourceLines_above hUnbroken⟩

/-- The numbers of the marker can be read, and yet its lines are not inserted in front of a recorder
that puts the insertion into words. -/
theorem not_verbatim_longMarker :
    (sourcesWith longFile).Holds ['f'] [longMarker.text, ['x']] ∧
    Marker.IsFirst ['a'] 1 [longMarker.text, ['x']] 1 longMarker ∧
    longMarker.Spans 1 (numberBound - 1) ∧ 1 ≤ numberBound - 1 ∧
    ((sourcesWith longFile).run .wording markerCommand).outcome =
      .error .numberTooLong := by
  have hTen := ten_le_numberBound
  have hFind := find?_letterMarker 1 (numberBound - 1) [['x']]
  have hSpans : longMarker.Spans 1 (numberBound - 1) :=
    spans_letterMarker (by omega) (by omega)
  have hFirst : Marker.IsFirst ['a'] 1 [longMarker.text, ['x']] 1 longMarker :=
    Marker.find?_eq_some_iff.mp hFind
  refine ⟨holds_longFile, hFirst, hSpans, by omega, ?_⟩
  rw [outcome_run_first holds_longFile parse_markerCommand hFirst hSpans (by omega),
    if_pos ⟨rfl, by omega⟩]

end Excerpt
