import Excerpt.Proofs.Document.Report
import Excerpt.Proofs.Markdown.Protection

/-!
# A document as a Markdown text

The lines of a document can also be expanded as those of a Markdown text. There each text that a
line becomes is cut into lines again, and as no line of a document holds a line feed, this changes
nothing in the joined text. So as long as no block is looked for, or there is none, both ways give
the same text and tell the same, or end with the same fault. That is so in front of every listener,
whatever it refuses and by whatever fault.

* `expand_of_unprotected`: a text without fences, line by line.
* `process_agrees`: a document is processed as it is expanded as Markdown.
-/

namespace Excerpt

namespace Markdown

variable {settings : Settings} {disk : Disk} {listener : Listener} {lines : List Text}
  {input output : Path}

/-! ## Lines that are not protected -/

theorem protect_of_no_fence (h : ∀ line ∈ lines, Fence.ofLine? line = none) :
    Fence.protect none lines = lines.map (false, ·) := by
  induction lines with
  | nil => rfl
  | cons line rest ih =>
    rw [List.forall_mem_cons] at h
    simp [Fence.protect, Fence.isProtected, Fence.stateBehind, h.1, ih h.2]

theorem judged_of_unprotected
    (h : settings.skipFences = false ∨ ∀ line ∈ lines, Fence.ofLine? line = none) :
    (if settings.skipFences then Fence.protect none lines else lines.map (false, ·)) =
      lines.map (false, ·) := by
  split
  · rename_i hSkip
    exact protect_of_no_fence (h.resolve_left (by simp [hSkip]))
  · rfl

/-- Without a line feed in it, a line is cut like the text that it becomes. -/
theorem expandOne_unprotected (sources : Sources) (listener : Listener) {line : Text}
    (h : '\n' ∉ line) : expandOne sources listener false line =
      Text.splitOn '\n' <$> expandLine sources listener line := by
  unfold expandOne
  cases hLine : isCommandLine line with
  | true => exact (map_eq_pure_bind _ _).symm
  | false =>
    rw [expandLine_of_not_command sources listener hLine, map_pure, Text.splitOn_of_not_mem h]
    rfl

/-- Lines that are not protected are expanded one by one, and what they become is cut into lines. -/
theorem expand_of_unprotected
    (h : settings.skipFences = false ∨ ∀ line ∈ lines, Fence.ofLine? line = none)
    (hLines : ∀ line ∈ lines, '\n' ∉ line) (listener : Listener) :
    Markdown.expand settings disk listener lines =
      (fun texts => (texts.map (Text.splitOn '\n')).flatten) <$>
        lines.mapM (expandLine ⟨disk, settings.root, settings.languages⟩ listener) := by
  unfold Markdown.expand
  rw [judged_of_unprotected h]
  dsimp only
  rw [List.mapM_map, ← map_eq_pure_bind]
  have hOne : ∀ line ∈ lines, ((fun judged : Bool × Text =>
      expandOne ⟨disk, settings.root, settings.languages⟩ listener judged.1 judged.2) ∘
        (false, ·)) line = Text.splitOn '\n' <$>
          expandLine ⟨disk, settings.root, settings.languages⟩ listener line :=
    fun line hLine => expandOne_unprotected _ listener (hLines line hLine)
  exact (congrArg _ (mapM_congr_mem hOne)).trans (by rw [map_mapM, Functor.map_map])

/-! ## The two ways -/

theorem expand_document (hRead : Document.readLines disk input = .ok lines)
    (root : Path) (languages : LanguageTable) (listener : Listener) :
    Document.expand ⟨disk, root, languages⟩ listener input =
      (lines, ·) <$> lines.mapM (expandLine ⟨disk, root, languages⟩ listener) := by
  unfold Document.expand
  rw [hRead, Session.lift_ok, pure_bind, map_eq_pure_bind]

/-- A document whose output can be written and in which no block is looked for, or none is there, is
processed as it is expanded as Markdown, in front of every listener: the same is told, and both end
with the same fault, or the text that is written are the lines of the other run with line feeds
between them. -/
theorem process_agrees (hRead : Document.readLines disk input = .ok lines)
    (hTakes : disk.Takes output)
    (hFences : settings.skipFences = false ∨ ∀ line ∈ lines, Fence.ofLine? line = none)
    (listener : Listener) :
    let markdown := Markdown.expand settings disk listener lines []
    let document := Document.process ⟨disk, settings.root, settings.languages⟩ input output listener
    document.2.notices.filterMap Diagnostic.ofNotice? =
        markdown.notices.filterMap Diagnostic.ofNotice? ∧
      ((∃ fault, markdown.outcome = .error fault ∧ document.2.outcome = .error fault) ∨
        ∃ texts report, markdown.outcome = .ok texts ∧ document.2.outcome = .ok report ∧
          disk.write output (Utf8.encode (Text.join ['\n'] texts)) = .ok document.1 ∧
          (disk.Keeps output →
            document.1.read output = .ok (Utf8.encode (Text.join ['\n'] texts)))) := by
  dsimp only
  have hFeed : ∀ line ∈ lines, '\n' ∉ line :=
    fun line hLine => (Document.isUnbroken_of_readLines hRead line hLine).1
  rw [expand_of_unprotected hFences hFeed, Session.map_apply, Journal.map_eq]
  have hExpand := congrFun (expand_document hRead settings.root settings.languages listener) []
  rw [Session.map_apply, Journal.map_eq] at hExpand
  generalize lines.mapM (expandLine ⟨disk, settings.root, settings.languages⟩ listener) [] = texts
    at hExpand ⊢
  obtain ⟨fault, hFault, hProcess⟩ | ⟨lines', expanded, hOk, hProcess⟩ :=
    Document.process_cases ⟨disk, settings.root, settings.languages⟩ input output listener
  · rw [hExpand] at hFault hProcess
    rw [hProcess]
    refine ⟨rfl, .inl ⟨fault, ?_, rfl⟩⟩
    exact map_eq_error_iff.mpr (map_eq_error_iff.mp hFault)
  · rw [hExpand] at hOk hProcess
    obtain ⟨texts', hTexts, hPair⟩ := map_eq_ok_iff.mp hOk
    cases hPair
    obtain ⟨written, hWrite⟩ := hTakes (Utf8.encode (Document.outputText expanded))
    rw [hProcess, Document.writeOut_eq_ok_iff.mpr ⟨hWrite, rfl, rfl⟩]
    have hText : Text.join ['\n'] (expanded.map (Text.splitOn '\n')).flatten =
        Document.outputText expanded := Text.join_flatten_splitOn '\n' expanded
    refine ⟨?_, .inr ⟨_, _, map_eq_ok_iff.mpr ⟨expanded, hTexts, rfl⟩, rfl, ?_, ?_⟩⟩
    · -- behind the notices of the lines there is only the trace of the document
      rw [List.filterMap_append]
      exact List.append_nil _
    · rw [hText]
      exact hWrite
    · rw [hText]
      exact fun hKeeps => hKeeps _ _ hWrite

/-- Refuses all that comes behind the first two diagnostics. -/
def hearingTwo : Listener where
  refuses told _ := if told.length < 2 then none else some (.raised (.foreign "Deaf") "enough")

/-- The document with a command that is kept and one that is replaced, as a Markdown text; and the
same in front of a listener that does not want to hear of the second command. -/
theorem process_agrees_mixed :
    let lines := ["a", "insert_code(x:1)", "insert_code(d:1)"].map String.toList
    (∃ report,
      (Markdown.expand {} Document.mixedSources.disk .wording lines []).outcome =
        .ok (["a", "insert_code(x:1)", "```", "a", "```"].map String.toList) ∧
      (Document.process Document.mixedSources Document.ownPath Document.ownPath
        .wording).2.outcome = .ok report ∧
      (Document.process Document.mixedSources Document.ownPath Document.ownPath
        .wording).1.read Document.ownPath =
          .ok (Utf8.encode "a\ninsert_code(x:1)\n```\na\n```".toList)) ∧
    (Document.process Document.mixedSources Document.ownPath Document.ownPath
      hearingTwo).2.outcome = .error (.raised (.foreign "Deaf") "enough") := by
  dsimp only
  have hRead : Document.readLines Document.mixedSources.disk Document.ownPath =
      .ok (["a", "insert_code(x:1)", "insert_code(d:1)"].map String.toList) := by decide +kernel
  have hPlain : Document.mixedSources.disk.IsPlain Document.ownPath := fun _ _ _ => ⟨rfl, rfl⟩
  have hTarget : Document.mixedSources.disk.target Document.ownPath = .ok [['d']] := by
    decide +kernel
  have hTakes : Document.mixedSources.disk.Takes Document.ownPath :=
    hPlain.takes hTarget (by decide)
  have hFences : ({} : Settings).skipFences = false ∨
      ∀ line ∈ ["a", "insert_code(x:1)", "insert_code(d:1)"].map String.toList,
        Fence.ofLine? line = none := .inr (by decide)
  constructor
  · have hRun : (Markdown.expand {} Document.mixedSources.disk .wording
        (["a", "insert_code(x:1)", "insert_code(d:1)"].map String.toList) []).outcome =
          .ok (["a", "insert_code(x:1)", "```", "a", "```"].map String.toList) := by decide +kernel
    obtain ⟨-, ⟨fault, hFault, -⟩ | ⟨texts, report, hTexts, hReport, -, hContent⟩⟩ :=
      process_agrees hRead hTakes hFences .wording
    · cases hRun.symm.trans hFault
    · obtain rfl := Except.ok.inj (hRun.symm.trans hTexts)
      exact ⟨report, hRun, hReport, hContent hPlain.keeps⟩
  · have hRun : (Markdown.expand {} Document.mixedSources.disk hearingTwo
        (["a", "insert_code(x:1)", "insert_code(d:1)"].map String.toList) []).outcome =
          .error (.raised (.foreign "Deaf") "enough") := by decide +kernel
    obtain ⟨-, ⟨fault, hFault, hProcess⟩ | ⟨texts, report, hTexts, -⟩⟩ :=
      process_agrees hRead hTakes hFences hearingTwo
    · cases hRun.symm.trans hFault
      exact hProcess
    · cases hRun.symm.trans hTexts

end Markdown

end Excerpt
