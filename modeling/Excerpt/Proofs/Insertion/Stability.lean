import Excerpt.Proofs.Insertion.Below
import Excerpt.Proofs.Source.Bounds

/-!
# Commands whose file has other lines above it

Complete lines that are put above those of a source file do not change what a command inserts, if
its selectors count from the block: a block that is named by a marker moves with the marker, and a
command that names the lines by number finds them under numbers that are as much larger.

There is one exception. Numbers that cannot be written are refused when they are put into words,
and that is done for a marker whose range is reversed, and for a recorder that is told of an
insertion. A marker whose numbers come to be that large by the lines above it fails differently.

* `Marker.Oversteps`: the exception.
* `Insertion.settle_marker`: a command that names its block by a marker.
* `expandLine_below`: commands of both kinds.
-/

namespace Excerpt

/-- The number of lines of a source text. -/
def Text.height (t : Text) : Nat := (Text.lines isSourceBreak t).length

/-- The file of a name in two roots of code: in the second one `above` stands above it. -/
structure StandsBelow (sources sources' : Sources) (name above file : Text) : Prop where
  root : sources'.root = sources.root
  languages : sources'.languages = sources.languages
  isEnded : above.IsEnded
  reads : ∃ front content, Utf8.decode front = .ok above ∧ Utf8.decode content = .ok file ∧
    sources.disk.read (sources.root.join (Path.ofText name)) = .ok content ∧
    sources'.disk.read (sources.root.join (Path.ofText name)) = .ok (front ++ content)

/-- Whether the marker of a block names numbers that can be written, but no longer `k` lines
further down, and there is someone to whom they are put into words. -/
def Marker.Oversteps (recorder : Recorder) (k : Nat) (id file : Text) : Prop :=
  ∃ n marker first last, Marker.find? id 1 (Text.lines isSourceBreak file) = some (n, marker) ∧
    readSpan "marker range".toList marker.span = .ok (first, last) ∧
    (last < first ∨ recorder = .wording) ∧ LineRange.Outgrows k (n + max first last)

theorem Marker.oversteps_iff {recorder : Recorder} {k n first last : Nat} {id file : Text}
    {marker : Marker} (hFind : find? id 1 (Text.lines isSourceBreak file) = some (n, marker))
    (hSpan : readSpan "marker range".toList marker.span = .ok (first, last)) :
    Oversteps recorder k id file ↔
      (last < first ∨ recorder = .wording) ∧ LineRange.Outgrows k (n + max first last) := by
  constructor
  · rintro ⟨n', marker', first', last', hFind', hSpan', h⟩
    obtain ⟨rfl, rfl⟩ : n = n' ∧ marker = marker' := by
      simpa using hFind.symm.trans hFind'
    obtain ⟨rfl, rfl⟩ : first = first' ∧ last = last' := by
      simpa using hSpan.symm.trans hSpan'
    exact h
  · intro h
    exact ⟨n, marker, first, last, hFind, hSpan, h⟩

/-! ## Finding the block -/

namespace Insertion

variable {sources sources' : Sources} {name above file : Text} {c c' : Command}

theorem read_below (h : StandsBelow sources sources' name above file) (hName : c.filename = name)
    (hName' : c'.filename = name) (r : LineRange) :
    ∃ block, block.range = r ∧
      CodeBlock.read sources.disk (c.sourcePath sources.root) r = .ok block ∧
      CodeBlock.read sources'.disk (c'.sourcePath sources'.root) (r.shift above.height) =
        .ok (block.shift above.height) := by
  obtain ⟨front, content, hAbove, hFile, hRead, hRead'⟩ := h.reads
  have hBoth := Utf8.decode_append_ok hAbove hFile
  refine ⟨CodeBlock.excerpt (Text.lines isSourceBreak file) r, rfl, ?_, ?_⟩
  · unfold Command.sourcePath
    rw [hName]
    exact CodeBlock.read_of_decode hRead hFile r
  · unfold Command.sourcePath
    rw [hName', h.root, CodeBlock.read_of_decode hRead' hBoth,
      Text.lines_append_of_isEnded rfl h.isEnded]
    exact congrArg _ (CodeBlock.excerpt_below _ _ r)

theorem fetch_lines (h : StandsBelow sources sources' name above file) (r : LineRange)
    (s : Suffixes) :
    ∃ block, block.range = r ∧ (fetch sources ⟨name, .lines r, s⟩).outcome = .ok block ∧
      (fetch sources' ⟨name, .lines (r.shift above.height), s⟩).outcome =
        .ok (block.shift above.height) :=
  read_below h rfl rfl r

theorem outcome_resolve (h : StandsBelow sources sources' name above file)
    (hName : c.filename = name) {id : Text} (hBlock : c.address = .block id) :
    (resolve sources c).outcome =
      match Marker.find? id 1 (Text.lines isSourceBreak file) with
      | none => .error (.blockNotFound id (c.sourcePath sources.root))
      | some (n, m) => m.rangeAt n := by
  obtain ⟨_, content, -, hFile, hRead, -⟩ := h.reads
  unfold resolve Command.sourcePath
  rw [hBlock, hName]
  exact Marker.outcome_locate hRead hFile id

theorem outcome_resolve_below (h : StandsBelow sources sources' name above file)
    (hName : c.filename = name) {id : Text} (hBlock : c.address = .block id)
    (hNone : ∀ text ∈ Text.lines isSourceBreak above, ¬ Marker.Names id text) :
    (resolve sources' c).outcome =
      match Marker.find? id 1 (Text.lines isSourceBreak file) with
      | none => .error (.blockNotFound id (c.sourcePath sources.root))
      | some (n, m) => m.rangeAt (n + above.height) := by
  obtain ⟨front, content, hAbove, hFile, -, hRead⟩ := h.reads
  have hBoth := Utf8.decode_append_ok hAbove hFile
  unfold resolve Command.sourcePath
  rw [hBlock, hName, h.root]
  dsimp only
  rw [Marker.outcome_locate hRead hBoth, Text.lines_append_of_isEnded rfl h.isEnded,
    Marker.find?_below hNone]
  cases Marker.find? id 1 (Text.lines isSourceBreak file) <;> rfl

/-- A command that names its block by a marker that does not stand in the lines above. -/
theorem settle_marker (h : StandsBelow sources sources' name above file)
    (hName : c.filename = name) {id : Text} (hBlock : c.address = .block id)
    (hNone : ∀ text ∈ Text.lines isSourceBreak above, ¬ Marker.Names id text)
    {wanted : Instructions} (hRelative : wanted.IsRelative) (recorder : Recorder) (line : Text) :
    Alike (settle recorder line ((fetch sources' c).outcome.map (assemble sources' c wanted)))
      (settle recorder line ((fetch sources c).outcome.map (assemble sources c wanted))) ↔
      ¬ Marker.Oversteps recorder above.height id file := by
  rw [outcome_fetch, outcome_fetch, outcome_resolve h hName hBlock,
    outcome_resolve_below h hName hBlock hNone]
  cases hFind : Marker.find? id 1 (Text.lines isSourceBreak file) with
  | none =>
    refine iff_of_true (alike_refl _) ?_
    rintro ⟨_, _, _, _, hFind', -⟩
    rw [hFind] at hFind'
    cases hFind'
  | some found =>
    obtain ⟨n, marker⟩ := found
    dsimp only
    obtain ⟨fault, hSpan, hFault, hFault'⟩ |
      ⟨first, last, fault, fault', hSpan, hOrder, hFault, hFault', hKind⟩ |
      ⟨first, last, r, hSpan, hOrder, hLast, hr, hr'⟩ :=
        marker.rangeAt_cases (Marker.le_of_find? hFind) above.height
    · rw [hFault, hFault']
      refine iff_of_true (alike_refl _) ?_
      rintro ⟨_, _, _, _, hFind', hSpan', -⟩
      obtain ⟨rfl, rfl⟩ : n = _ ∧ marker = _ := by simpa using hFind.symm.trans hFind'
      rw [hSpan] at hSpan'
      cases hSpan'
    · rw [hFault, hFault', Marker.oversteps_iff hFind hSpan, Nat.max_eq_left hOrder.le]
      refine (alike_settle_error.trans hKind).trans ?_
      simp [hOrder]
    · obtain ⟨block, rfl, hRead, hRead'⟩ := read_below h hName hName r
      have hTold : Alike ((assemble sources' c wanted (block.shift above.height)).toldTo recorder)
          ((assemble sources c wanted block).toldTo recorder) ↔ _ :=
        alike_toldTo h.languages rfl hRelative block above.height recorder
      rw [hr, hr', Marker.oversteps_iff hFind hSpan, Nat.max_eq_right hOrder, ← hLast]
      have hNot : ¬ last < first := Nat.not_lt_of_le hOrder
      simp only [hNot, false_or]
      rw [← hTold]
      simp only [bind, Except.bind, hRead, hRead', Except.map, settle]

end Insertion

/-! ## A root of code with one file -/

/-- A root of code with one file, whose name is a single letter. -/
def sourcesOf (content : Bytes) : Sources :=
  ⟨{ entries := [([['f']], .file content)], home := [] }, ⟨.relative, []⟩, .standard⟩

/-- A line without a marker. -/
def plainLine : Text := ['p', '\n']

/-- The file, alone. -/
def sourcesWith (file : Text) : Sources := sourcesOf (Utf8.asciiBytes file)

/-- The file with a line above it. -/
def sourcesBelowLine (file : Text) : Sources :=
  sourcesOf (Utf8.asciiBytes plainLine ++ Utf8.asciiBytes file)

theorem standsBelow_plainLine {file : Text} (hFile : Utf8.IsAscii file) :
    StandsBelow (sourcesWith file) (sourcesBelowLine file) ['f'] plainLine file where
  root := rfl
  languages := rfl
  isEnded := .inr rfl
  reads := ⟨_, _, Utf8.decode_asciiBytes (by decide), Utf8.decode_asciiBytes hFile, rfl, rfl⟩

theorem not_names_plainLine (id : Text) :
    ∀ text ∈ Text.lines isSourceBreak plainLine, ¬ Marker.Names id text := by
  rintro text hText ⟨m, hm, -⟩
  have hLine : text = ['p'] := List.mem_singleton.mp hText
  rw [hLine] at hm
  cases hm

/-- A marker for its own line and the one below. -/
def smallFile : Text := Marker.text ⟨['a'], ['0', '-', '1']⟩ ++ ['\n', 'x']

/-- A marker for the lines between two numbers. -/
def letterMarker (first last : Nat) : Marker :=
  ⟨['a'], Numeral.ofNat first ++ '-' :: Numeral.ofNat last⟩

theorem mem_letterMarker {first last : Nat} {c : Char} (h : c ∈ (letterMarker first last).text) :
    c.toNat < 128 ∧ isSourceBreak c = false ∧ c ≠ '\r' := by
  have hFixed : ∀ c ∈ Marker.opening ++ ['a', ':', '-', ')'],
      c.toNat < 128 ∧ isSourceBreak c = false ∧ c ≠ '\r' := by
    simp [Marker.opening, isSourceBreak]
  have hDigit (n : Nat) (hc : c ∈ Numeral.ofNat n) :
      c.toNat < 128 ∧ isSourceBreak c = false ∧ c ≠ '\r' := by
    obtain ⟨-, hHigh⟩ := Numeral.bounds_of_mem_ofNat hc
    have hBlank := Numeral.isBlank_of_mem_ofNat hc
    have hHigh' : c.toNat ≤ 57 := hHigh
    refine ⟨by omega, ?_, ?_⟩
    · refine beq_eq_false_iff_ne.mpr fun hEq => ?_
      rw [hEq] at hBlank
      exact absurd hBlank (by decide)
    · intro hEq
      rw [hEq] at hBlank
      exact absurd hBlank (by decide)
  simp only [letterMarker, Marker.text, List.mem_append, List.mem_cons] at h hFixed
  grind

theorem isWritable_letterMarker (first last : Nat) : (letterMarker first last).IsWritable := by
  constructor
  · intro c hc
    rw [List.mem_singleton.mp hc]
    decide
  · intro c hc
    have hDigit (n : Nat) (hc : c ∈ Numeral.ofNat n) : c ≠ '(' ∧ c ≠ ')' := by
      constructor
      · exact fun hEq => Numeral.not_mem_ofNat (by decide) (hEq ▸ hc)
      · exact fun hEq => Numeral.not_mem_ofNat (by decide) (hEq ▸ hc)
    rcases List.mem_append.mp hc with hc | hc
    · exact hDigit _ hc
    · rcases List.mem_cons.mp hc with rfl | hc
      · decide
      · exact hDigit _ hc

theorem find?_letterMarker (first last : Nat) (below : List Text) :
    Marker.find? ['a'] 1 ((letterMarker first last).text :: below) =
      some (1, letterMarker first last) := by
  have hStart := Marker.atStart?_text (isWritable_letterMarker first last) []
  rw [List.append_nil] at hStart
  exact Marker.find?_of_atStart? hStart 1 below

theorem spans_letterMarker {first last : Nat} (hFirst : first < numberBound)
    (hLast : last < numberBound) : (letterMarker first last).Spans first last :=
  ⟨_, _, rfl, spellsShort_ofNat hFirst, spellsShort_ofNat hLast⟩

/-- The command that inserts a block without suffixes. -/
def markerCommand : Text := CommandKind.marker.keyword ++ ['(', 'f', ':', 'a', ')']

/-- The command that inserts a line without suffixes. -/
def directCommand (digit : Char) : Text :=
  CommandKind.direct.keyword ++ ['(', 'f', ':', digit, ')']

theorem read_markerCommand :
    CommandHead.read markerCommand = .ok ⟨.marker, ['f'], ['a'], []⟩ := by decide

theorem parse_markerCommand :
    Command.parse markerCommand = .ok ⟨['f'], .block ['a'], {}⟩ := by
  unfold Command.parse
  rw [read_markerCommand]
  dsimp only
  rw [Suffixes.split_nil]
  rfl

theorem isRelative_of_split_nil {s : Suffixes} (h : Suffixes.split [] = .ok s) : s.IsRelative := by
  rw [Suffixes.split_nil] at h
  cases h
  intro source hSource
  simp at hSource

section

variable {sources sources' : Sources} {name above file tail : Text}

/-- A command line that names its block by a marker. -/
theorem alike_expandLine_marker (h : StandsBelow sources sources' name above file)
    (recorder : Recorder) (hTail : ∀ s, Suffixes.split tail = .ok s → s.IsRelative)
    {line id : Text} (hHead : CommandHead.read line = .ok ⟨.marker, name, id, tail⟩)
    (hNone : ∀ text ∈ Text.lines isSourceBreak above, ¬ Marker.Names id text) :
    Alike (sources'.run recorder line).outcome (sources.run recorder line).outcome ↔
      ¬ ((∃ c wanted, Command.parse line = .ok c ∧ c.suffixes.read.outcome = .ok wanted) ∧
        Marker.Oversteps recorder above.height id file) := by
  have hKind := CommandKind.ofLine?_of_read hHead
  rw [outcome_run _ hKind, outcome_run _ hKind]
  cases hParse : Command.parse line with
  | error fault =>
    rw [Insertion.outcome_build_of_error _ hParse, Insertion.outcome_build_of_error _ hParse]
    refine iff_of_true (alike_refl _) ?_
    rintro ⟨⟨_, _, hOk, -⟩, -⟩
    cases hOk
  | ok c =>
    obtain ⟨hName, hSplit, hAddress⟩ := Command.parts_of_parse hHead hParse
    have hBlock : c.address = .block id := by
      unfold Command.readAddress at hAddress
      dsimp only at hAddress
      split at hAddress
      · cases hAddress
      · exact (Except.ok.inj hAddress).symm
    rw [Insertion.outcome_build_of_parse _ hParse, Insertion.outcome_build_of_parse _ hParse]
    cases hRead : c.suffixes.read.outcome with
    | error fault =>
      refine iff_of_true (alike_refl _) ?_
      rintro ⟨⟨_, _, ⟨⟩, hOk⟩, -⟩
      rw [hRead] at hOk
      cases hOk
    | ok wanted =>
      have hRelative := isRelative_of_read (hTail _ hSplit) hRead
      have hSettle :=
        Insertion.settle_marker h hName hBlock hNone hRelative recorder line
      refine hSettle.trans (not_congr ?_)
      exact ⟨fun hOver => ⟨⟨c, wanted, rfl, hRead⟩, hOver⟩, And.right⟩

/-- Two command lines that name the same lines of the file, below and without the lines above. -/
theorem alike_expandLine_direct (h : StandsBelow sources sources' name above file)
    (recorder : Recorder) (hTail : ∀ s, Suffixes.split tail = .ok s → s.IsRelative)
    {line line' address address' : Text} {r : LineRange}
    (hHead : CommandHead.read line = .ok ⟨.direct, name, address, tail⟩)
    (hHead' : CommandHead.read line' = .ok ⟨.direct, name, address', tail⟩)
    (hLines : Command.readLines address = .ok r)
    (hLines' : Command.readLines address' = .ok (r.shift above.height)) :
    Alike (sources'.run recorder line').outcome (sources.run recorder line).outcome := by
  have hParse := Command.parse_of_readLines hHead hLines
  have hParse' := Command.parse_of_readLines hHead' hLines'
  rw [outcome_run _ (CommandKind.ofLine?_of_read hHead),
    outcome_run _ (CommandKind.ofLine?_of_read hHead')]
  cases hSplit : Suffixes.split tail with
  | error fault =>
    rw [hSplit] at hParse hParse'
    have hWriting : fault.IsWriting := .inl (Suffixes.failsBy_split tail fault hSplit)
    rw [Insertion.outcome_build_of_error _ hParse, Insertion.outcome_build_of_error _ hParse',
      settle_of_isWriting hWriting, settle_of_isWriting hWriting]
    exact alike_refl _
  | ok s =>
    rw [hSplit] at hParse hParse'
    rw [Insertion.outcome_build_of_parse _ hParse, Insertion.outcome_build_of_parse _ hParse']
    dsimp only
    cases hRead : s.read.outcome with
    | error fault =>
      have hPieces : FailsBy (Fault.IsOf · tail) s.read.outcome :=
        failsBy_readSuffixes fun _ hp => Suffixes.infix_of_split hSplit hp
      have hWriting := (hPieces fault hRead).isWriting
      change Alike (settle _ _ (.error fault)) (settle _ _ (.error fault))
      rw [settle_of_isWriting hWriting, settle_of_isWriting hWriting]
      exact alike_refl _
    | ok wanted =>
      have hRelative := isRelative_of_read (hTail s hSplit) hRead
      have hShort : ¬ (recorder = .wording ∧ LineRange.Outgrows above.height r.last) := by
        have hLast := Command.lt_of_readLines hLines'
        rintro ⟨-, -, hLong⟩
        exact absurd hLast (Nat.not_lt_of_le hLong)
      obtain ⟨block, rfl, hFetch, hFetch'⟩ := Insertion.fetch_lines h r s
      simp only [hFetch, hFetch']
      refine (Insertion.alike_toldTo h.languages rfl hRelative block above.height recorder).mpr ?_
      exact hShort

/-- Both kinds of commands insert the same, or fail with the same kind of fault, below other lines
and without them; the exception is a command that is read as a whole and whose marker oversteps. -/
theorem expandLine_below (h : StandsBelow sources sources' name above file)
    (recorder : Recorder) (hTail : ∀ s, Suffixes.split tail = .ok s → s.IsRelative) :
    (∀ line id, CommandHead.read line = .ok ⟨.marker, name, id, tail⟩ →
      (∀ text ∈ Text.lines isSourceBreak above, ¬ Marker.Names id text) →
      (Alike (sources'.run recorder line).outcome (sources.run recorder line).outcome ↔
        ¬ ((∃ c wanted, Command.parse line = .ok c ∧ c.suffixes.read.outcome = .ok wanted) ∧
          Marker.Oversteps recorder above.height id file))) ∧
    (∀ line line' address address' r,
      CommandHead.read line = .ok ⟨.direct, name, address, tail⟩ →
      CommandHead.read line' = .ok ⟨.direct, name, address', tail⟩ →
      Command.readLines address = .ok r →
      Command.readLines address' = .ok (r.shift above.height) →
      Alike (sources'.run recorder line').outcome (sources.run recorder line).outcome) := by
  constructor
  · intro line id hHead hNone
    exact alike_expandLine_marker h recorder hTail hHead hNone
  · intro line line' address address' r hHead hHead' hLines hLines'
    exact alike_expandLine_direct h recorder hTail hHead hHead' hLines hLines'

end

/-- A line above a file with one marker, for a command of either kind. -/
theorem expandLine_below_plainLine :
    Alike ((sourcesBelowLine smallFile).run .wording markerCommand).outcome
      ((sourcesWith smallFile).run .wording markerCommand).outcome ∧
    Alike ((sourcesBelowLine smallFile).run .wording (directCommand '3')).outcome
      ((sourcesWith smallFile).run .wording (directCommand '2')).outcome := by
  obtain ⟨hMarker, hDirect⟩ := expandLine_below
    (standsBelow_plainLine (by decide : Utf8.IsAscii smallFile)) .wording
    fun s => isRelative_of_split_nil
  refine ⟨(hMarker _ _ read_markerCommand (not_names_plainLine _)).mpr ?_, ?_⟩
  · rintro ⟨-, hOversteps⟩
    have hFind : Marker.find? ['a'] 1 (Text.lines isSourceBreak smallFile) =
        some (1, ⟨['a'], ['0', '-', '1']⟩) := by decide
    have hSpan : readSpan "marker range".toList ['0', '-', '1'] = .ok (0, 1) := by decide
    obtain ⟨-, -, hLong⟩ := (Marker.oversteps_iff hFind hSpan).mp hOversteps
    have hShort : numberBound ≤ 3 := hLong
    have hTen := ten_le_numberBound
    omega
  · exact hDirect (directCommand '2') (directCommand '3') ['2'] ['3'] ⟨2, 2, by decide, le_rfl⟩
      (by decide) (by decide) (by decide) (by decide)

/-! ## The exception -/

/-- A marker whose range is reversed. The larger end of the range is on the last line but one that
can be written, if the marker is on the first line. -/
def reversedMarker : Marker :=
  ⟨['a'], Numeral.ofNat (numberBound - 2) ++ '-' :: Numeral.ofNat 1⟩

/-- One line above the reversed marker, and the number that its refusal names cannot be written. -/
theorem not_alike_reversedMarker :
    StandsBelow (sourcesWith reversedMarker.text) (sourcesBelowLine reversedMarker.text)
      ['f'] plainLine reversedMarker.text ∧
    (∀ text ∈ Text.lines isSourceBreak plainLine, ¬ Marker.Names ['a'] text) ∧
    ∀ recorder : Recorder, ¬ Alike
      ((sourcesBelowLine reversedMarker.text).run recorder markerCommand).outcome
      ((sourcesWith reversedMarker.text).run recorder markerCommand).outcome := by
  have hBelow : StandsBelow (sourcesWith reversedMarker.text)
      (sourcesBelowLine reversedMarker.text) ['f'] plainLine reversedMarker.text :=
    standsBelow_plainLine fun c hc => (mem_letterMarker hc).1
  have hNone := not_names_plainLine ['a']
  refine ⟨hBelow, hNone, fun recorder => ?_⟩
  have hLines : Text.lines isSourceBreak reversedMarker.text = [reversedMarker.text] :=
    Text.lines_of_unbroken (by simp [Marker.text, Marker.opening])
      fun c hc => (mem_letterMarker hc).2
  have hFind : Marker.find? ['a'] 1 (Text.lines isSourceBreak reversedMarker.text) =
      some (1, reversedMarker) := by
    rw [hLines]
    exact find?_letterMarker _ _ []
  have hTen := ten_le_numberBound
  have hSpan : readSpan "marker range".toList reversedMarker.span = .ok (numberBound - 2, 1) :=
    readSpan_ofNat (by omega) (by omega) _
  rw [alike_expandLine_marker hBelow recorder (fun s => isRelative_of_split_nil)
    read_markerCommand hNone, not_not, Marker.oversteps_iff hFind hSpan]
  refine ⟨⟨_, _, parse_markerCommand, rfl⟩, .inl (by omega), ?_⟩
  have hHeight : plainLine.height = 1 := rfl
  rw [hHeight, LineRange.Outgrows]
  omega

end Excerpt
