import Excerpt.Proofs.Command.Head
import Excerpt.Proofs.Document.Output
import Excerpt.Proofs.Text.LineFeeds

/-!
# The text around the commands

A document without commands is written as it was read, with line feeds for the ends of its lines
and without the last of them. A document has more ends of lines than the files it takes code from:
a form feed or a separator of paragraphs in the middle of a line stands as a line feed in the
output. So the text is kept, up to returns and the last line feed, by documents without such
characters and by no others.

* `Document.processesTo_iff`: what a document is processed to, line by line.
* `Document.process_keeps_text`: when the text is kept, and what stands in the output otherwise.
* `Document.process_keeps_text_foreignEnds`: a document with returns.
* `Document.not_keeps_verticalTab`: one with a vertical tab, which is not kept.
-/

namespace Excerpt

/-- A line that begins with a command is one however it goes on. -/
theorem isCommandLine_append {line : Text} (h : isCommandLine line = true) (after : Text) :
    isCommandLine (line ++ after) = true := by
  obtain ⟨kind, hKind⟩ := isCommandLine_iff.mp h
  exact isCommandLine_iff.mpr ⟨kind, hKind.trans (List.prefix_append line after)⟩

namespace Document

variable {sources : Sources} {input output : Path} {recorder : Recorder}

/-- Whether the text stands in the file. -/
def HoldsText (disk : Disk) (path : Path) (t : Text) : Prop :=
  ∃ content, disk.read path = .ok content ∧ Utf8.decode content = .ok t

/-- Whether the document is processed, and its output is the text. -/
def ProcessesTo (sources : Sources) (input output : Path) (recorder : Recorder) (t : Text) : Prop :=
  ∃ disk notices report,
    process sources input output recorder.listener = (disk, ⟨notices, .ok report⟩) ∧
      HoldsText disk output t

theorem processesTo_iff (hKeeps : sources.disk.Keeps output) {t : Text} :
    ProcessesTo sources input output recorder t ↔
      ∃ lines texts, readLines sources.disk input = .ok lines ∧
        List.Forall₂ (Becomes sources recorder) lines texts ∧ outputText texts = t ∧
        ∃ disk, sources.disk.write output (Utf8.encode t) = .ok disk := by
  constructor
  · rintro ⟨disk, notices, report, hProcess, content, hContent, hDecode⟩
    obtain ⟨lines, texts, hRead, hTexts, hWrite, -⟩ := process_ok_iff.mp hProcess
    obtain rfl := Except.ok.inj (hContent.symm.trans (hKeeps _ _ hWrite))
    obtain rfl := Except.ok.inj (hDecode.symm.trans (Utf8.decode_encode _))
    exact ⟨lines, texts, hRead, becomeInTurn_recorder_iff.mp hTexts, rfl, disk, hWrite⟩
  · rintro ⟨lines, texts, hRead, hTexts, rfl, disk, hWrite⟩
    have hInTurn : BecomeInTurn sources recorder.listener [] lines texts :=
      becomeInTurn_recorder_iff.mpr hTexts
    exact ⟨disk, _, _, process_ok_iff.mpr ⟨lines, texts, hRead, hInTurn, hWrite, rfl, rfl⟩,
      Utf8.encode (outputText texts), hKeeps _ _ hWrite, Utf8.decode_encode _⟩

theorem ProcessesTo.unique {t t' : Text} (h : ProcessesTo sources input output recorder t)
    (h' : ProcessesTo sources input output recorder t') : t = t' := by
  obtain ⟨disk, notices, report, hProcess, content, hContent, hDecode⟩ := h
  obtain ⟨disk', notices', report', hProcess', content', hContent', hDecode'⟩ := h'
  cases hProcess.symm.trans hProcess'
  cases hContent.symm.trans hContent'
  exact Except.ok.inj (hDecode.symm.trans hDecode')

theorem readLines_of_holdsText {t : Text} (h : HoldsText sources.disk input t) :
    readLines sources.disk input = .ok (Text.lines isDocumentBreak t) := by
  obtain ⟨content, hContent, hDecode⟩ := h
  simp only [readLines, hContent, hDecode]

/-- Lines that are no commands become themselves. -/
theorem forall₂_becomes_iff {lines texts : List Text}
    (h : ∀ line ∈ lines, isCommandLine line = false) :
    List.Forall₂ (Becomes sources recorder) lines texts ↔ lines = texts := by
  rw [← List.forall₂_eq_eq_eq]
  induction lines generalizing texts with
  | nil => simp
  | cons line rest ih =>
    have hLine (text : Text) : Becomes sources recorder line text ↔ line = text := by
      rw [Becomes, if_neg (by simp [h line List.mem_cons_self]), eq_comm]
    have hRest := fun line hMem => h line (List.mem_cons_of_mem _ hMem)
    simp only [List.forall₂_cons_left_iff, hLine, ih hRest]

/-! ## Documents without commands -/

/-- Whether no line is a command. -/
def IsPlain (isBreak : Char → Bool) (t : Text) : Prop :=
  ∀ line ∈ Text.lines isBreak t, isCommandLine line = false

/-- A document without commands is written with a line feed for every end of a line. -/
theorem processesTo_of_isPlain {t : Text} (hInput : HoldsText sources.disk input t)
    (hPlain : IsPlain isDocumentBreak t) (hTakes : sources.disk.Takes output)
    (hKeeps : sources.disk.Keeps output) :
    ProcessesTo sources input output recorder (Text.withFeeds isDocumentBreak t).dropFeed :=
  (processesTo_iff hKeeps).mpr ⟨_, _, readLines_of_holdsText hInput,
    (forall₂_becomes_iff hPlain).mpr rfl, Text.join_lines (by decide) t, hTakes _⟩

/-! ## Ends of lines that source files do not have -/

/-- The first character of a text that ends a line only of a document, and what stands around it,
with line feeds for returns. -/
structure FirstForeignEnd (t before : Text) (c : Char) (after : Text) : Prop where
  unified_eq : Text.unified t = before ++ c :: after
  first : ∀ b ∈ before, isDocumentBreak b = true → b = '\n'
  isBreak : isDocumentBreak c = true
  ne_feed : c ≠ '\n'

theorem exists_firstForeignEnd {t : Text} {c : Char} (hMem : c ∈ t)
    (hc : isDocumentBreak c = true) (hFeed : c ≠ '\n') :
    ∃ before c after, FirstForeignEnd t before c after := by
  have hReturn : c ≠ '\r' := by
    rintro rfl
    cases hc
  have hFound : ((Text.unified t).find? fun c => isDocumentBreak c && c != '\n').isSome := by
    rw [List.find?_isSome]
    exact ⟨c, (Text.mem_unified_iff hFeed).mpr ⟨hMem, hReturn⟩, by simp [hc, hFeed]⟩
  obtain ⟨first, hFirst⟩ := Option.isSome_iff_exists.mp hFound
  obtain ⟨hFirst, before, after, ht, hBefore⟩ := List.find?_eq_some_iff_append.mp hFirst
  simp only [Bool.and_eq_true, bne_iff_ne] at hFirst
  exact ⟨before, first, after, ht, fun b hb hBreak => by simpa [hBreak] using hBefore b hb,
    hFirst.1, hFirst.2⟩

namespace FirstForeignEnd

variable {t before after : Text} {c : Char}

theorem ne_nil (h : FirstForeignEnd t before c after) : t ≠ [] := by
  rintro rfl
  have hEmpty := h.unified_eq
  simp [Text.unified] at hEmpty

/-- Up to the character, the lines are those of a source file. -/
theorem exists_lines_append (h : FirstForeignEnd t before c after) :
    ∃ more, Text.lines isDocumentBreak t = Text.splitOn '\n' before ++ more := by
  have hKept : before.map (Text.feedFor isDocumentBreak) = before := by
    refine (List.map_congr_left fun b hb => ?_).trans (List.map_id _)
    unfold Text.feedFor
    split
    · exact (h.first b hb ‹_›).symm
    · rfl
  have hWithFeeds : Text.withFeeds isDocumentBreak t =
      before ++ '\n' :: after.map (Text.feedFor isDocumentBreak) := by
    rw [Text.withFeeds, h.unified_eq, List.map_append, List.map_cons, hKept, Text.feedFor,
      if_pos h.isBreak]
  rw [Text.lines_eq_splitOn (by decide) h.ne_nil, hWithFeeds]
  exact Text.exists_splitOn_dropFeed before _

/-- So they are no commands if no line of a source file with the text is one. -/
theorem not_command_before (h : FirstForeignEnd t before c after)
    (hPlain : IsPlain isSourceBreak t) :
    ∀ line ∈ Text.splitOn '\n' before, isCommandLine line = false := by
  obtain ⟨rest, hRest⟩ := Text.exists_dropFeed_cons h.ne_feed after
  obtain ⟨front, last, longer, behind, hSplit, hSplit'⟩ :=
    Text.exists_splitOn_append '\n' before (c :: rest)
  have hSource : Text.lines isSourceBreak t = front ++ (last ++ longer) :: behind := by
    rw [Text.lines_eq_splitOn (by decide) h.ne_nil, Text.withFeeds_isSourceBreak, h.unified_eq,
      Text.dropFeed_append _ (List.cons_ne_nil _ _), hRest, hSplit']
  rw [IsPlain, hSource] at hPlain
  rw [hSplit]
  intro line hLine
  rcases List.mem_append.mp hLine with hLine | hLine
  · exact hPlain line (List.mem_append_left _ hLine)
  · rw [List.mem_singleton.mp hLine, ← Bool.not_eq_true]
    intro hCommand
    have hLonger := hPlain (last ++ longer) (by simp)
    cases (isCommandLine_append hCommand longer).symm.trans hLonger

/-- The output goes on with a line feed, or not at all, where the character stands. -/
theorem output_eq (h : FirstForeignEnd t before c after) (hPlain : IsPlain isSourceBreak t)
    {texts : List Text}
    (hTexts : List.Forall₂ (Becomes sources recorder) (Text.lines isDocumentBreak t) texts) :
    outputText texts = before ∨ ∃ rest, outputText texts = before ++ '\n' :: rest := by
  obtain ⟨more, hLines⟩ := h.exists_lines_append
  obtain ⟨back, rfl⟩ : ∃ back, texts = Text.splitOn '\n' before ++ back := by
    have hTaken := List.forall₂_take (Text.splitOn '\n' before).length (hLines ▸ hTexts)
    rw [List.take_left, forall₂_becomes_iff (h.not_command_before hPlain)] at hTaken
    exact (List.prefix_iff_eq_take.mpr hTaken).imp fun _ hBack => hBack.symm
  by_cases hBack : back = []
  · left
    rw [hBack, List.append_nil, outputText, Text.join_splitOn]
  · right
    refine ⟨Text.join ['\n'] back, ?_⟩
    rw [outputText, Text.join_append _ (Text.splitOn_ne_nil _ _) hBack, Text.join_splitOn]
    simp

theorem output_ne (h : FirstForeignEnd t before c after) (hPlain : IsPlain isSourceBreak t)
    {texts : List Text}
    (hTexts : List.Forall₂ (Becomes sources recorder) (Text.lines isDocumentBreak t) texts) :
    outputText texts ≠ (Text.unified t).dropFeed := by
  obtain ⟨rest, hRest⟩ := Text.exists_dropFeed_cons h.ne_feed after
  rw [h.unified_eq, Text.dropFeed_append _ (List.cons_ne_nil _ _), hRest]
  rcases h.output_eq hPlain hTexts with hOut | ⟨more, hOut⟩
  · simp [hOut]
  · rw [hOut]
    exact fun hEq => h.ne_feed (List.cons.inj (List.append_cancel_left hEq)).1.symm

end FirstForeignEnd

/-- The text of a document whose lines are no commands is kept, with line feeds for returns and
without the last line feed, if and only if no other character ends a line of a document in it. If
none of the lines that such characters end is a command either, a line feed stands in the output
for each of them, and the rest is kept. That is so where the output takes what is written to it,
and keeps it. -/
theorem process_keeps_text {t : Text} (hInput : HoldsText sources.disk input t)
    (hPlain : IsPlain isSourceBreak t) (hTakes : sources.disk.Takes output)
    (hKeeps : sources.disk.Keeps output) :
    (ProcessesTo sources input output recorder (Text.unified t).dropFeed ↔
      ∀ c ∈ t, isDocumentBreak c = true → c = '\n') ∧
    (IsPlain isDocumentBreak t →
      ProcessesTo sources input output recorder (Text.withFeeds isDocumentBreak t).dropFeed) := by
  refine ⟨⟨?_, ?_⟩, fun hLines => processesTo_of_isPlain hInput hLines hTakes hKeeps⟩
  · intro hProcess c hMem hc
    by_contra hFeed
    obtain ⟨lines, texts, hRead, hTexts, hText, -⟩ := (processesTo_iff hKeeps).mp hProcess
    obtain rfl := Except.ok.inj ((readLines_of_holdsText hInput).symm.trans hRead)
    obtain ⟨before, first, after, hFirst⟩ := exists_firstForeignEnd hMem hc hFeed
    exact hFirst.output_ne hPlain hTexts hText
  · intro hEnds
    have hSame : Text.withFeeds isDocumentBreak t = Text.withFeeds isSourceBreak t := by
      rw [Text.withFeeds_eq_unified hEnds, Text.withFeeds_isSourceBreak]
    have hLines : IsPlain isDocumentBreak t := by
      rwa [IsPlain, Text.lines_congr (by decide) (by decide) hSame]
    rw [← Text.withFeeds_eq_unified hEnds]
    exact processesTo_of_isPlain hInput hLines hTakes hKeeps

/-- A disk with one document and the text in it. -/
def documentSources (t : Text) : Sources where
  disk := { entries := [([['d']], .file (Utf8.encode t))], home := [] }

/-- The path of the document, and that of its output. -/
def documentPath : Path := ⟨.relative, [['d']]⟩

def resultPath : Path := ⟨.relative, [['o']]⟩

theorem holdsText_documentSources (t : Text) : HoldsText (documentSources t).disk documentPath t :=
  ⟨Utf8.encode t, rfl, Utf8.decode_encode t⟩

theorem takes_documentSources (t : Text) : (documentSources t).disk.Takes resultPath :=
  fun _ => ⟨_, rfl⟩

theorem keeps_documentSources (t : Text) : (documentSources t).disk.Keeps resultPath :=
  Disk.IsPlain.keeps fun _ _ _ => ⟨rfl, rfl⟩

/-- A document with both returns and line feeds; the empty line behind the last of them is no
line. -/
def foreignEnds : Text := ['a', '\r', '\n', '\t', '\r', '\r', 'b', '\n', '\n']

theorem process_keeps_text_foreignEnds : IsPlain isSourceBreak foreignEnds ∧
    (∀ c ∈ foreignEnds, isDocumentBreak c = true → c = '\n') ∧
    ProcessesTo (documentSources foreignEnds) documentPath resultPath .keeping
      ['a', '\n', '\t', '\n', '\n', 'b', '\n'] := by
  have hPlain : IsPlain isSourceBreak foreignEnds := by unfold IsPlain; decide
  have hEnds : ∀ c ∈ foreignEnds, isDocumentBreak c = true → c = '\n' := by
    simp [foreignEnds, isDocumentBreak]
  exact ⟨hPlain, hEnds, (process_keeps_text (holdsText_documentSources _) hPlain
    (takes_documentSources _) (keeps_documentSources _)).1.mpr hEnds⟩

/-- A line with a vertical tab. -/
def tabbedLine : Text := ['a', '\x0b', 'b']

/-- The tab ends a line of a document, so a line feed stands for it. -/
theorem not_keeps_verticalTab : IsPlain isSourceBreak tabbedLine ∧
    IsPlain isDocumentBreak tabbedLine ∧
    ProcessesTo (documentSources tabbedLine) documentPath resultPath .keeping ['a', '\n', 'b'] ∧
    ¬ ProcessesTo (documentSources tabbedLine) documentPath resultPath .keeping
      (Text.unified tabbedLine).dropFeed := by
  have hLines : IsPlain isDocumentBreak tabbedLine := by unfold IsPlain; decide
  have hProcess : ProcessesTo (documentSources tabbedLine) documentPath resultPath .keeping
      ['a', '\n', 'b'] :=
    processesTo_of_isPlain (holdsText_documentSources _) hLines (takes_documentSources _)
      (keeps_documentSources _)
  refine ⟨by unfold IsPlain; decide, hLines, hProcess, fun hKept => ?_⟩
  have hTab : ['a', '\n', 'b'] = (Text.unified tabbedLine).dropFeed := hProcess.unique hKept
  simp [tabbedLine, Text.unified, Text.dropFeed] at hTab

end Document

end Excerpt
