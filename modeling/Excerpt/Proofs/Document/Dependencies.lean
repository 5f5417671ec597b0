import Excerpt.Proofs.Document.Listing
import Excerpt.Proofs.Insertion.Phases

/-!
# What a document depends on

A command reads one file, and that file is the one that is listed for its line, so a document is
processed in the same way on every disk that agrees with it on the listed files. A document whose
processing succeeds has only lines for which a file can be listed.

* `Insertion.build_congr`, `expandLine_congr`: a line, by the file that is listed for it.
* `Document.mem_dependencies`: what is listed for a line is listed for its document.
* `Document.expand_congr`: the whole document.
* `Document.process_of_dependencies`: the same, up to the final write.
-/

namespace Excerpt

/-! ## Lines -/

section

variable {sources sources' : Sources}

theorem Marker.locate_congr {disk disk' : Disk} {path : Path}
    (h : disk'.read path = disk.read path) (id : Text) :
    locate disk' path id = locate disk path id := by
  unfold locate
  rw [Disk.feed?_congr h]

theorem CodeBlock.read_congr {disk disk' : Disk} {path : Path}
    (h : disk'.read path = disk.read path) (range : LineRange) :
    read disk' path range = read disk path range := by
  unfold read
  rw [Disk.feed?_congr h]

namespace Insertion

theorem fetch_congr {c : Command} (hRoot : sources'.root = sources.root)
    (h : sources'.disk.read (c.sourcePath sources.root) =
      sources.disk.read (c.sourcePath sources.root)) : fetch sources' c = fetch sources c := by
  have hResolve : resolve sources' c = resolve sources c := by
    unfold resolve
    rw [hRoot]
    cases c.address with
    | lines range => rfl
    | block id => exact Marker.locate_congr h id
  unfold fetch
  rw [hResolve, hRoot]
  congr 1
  funext range
  rw [CodeBlock.read_congr h]

theorem build_congr (hRoot : sources'.root = sources.root)
    (hLanguages : sources'.languages = sources.languages) {line : Text}
    (h : ∀ c, Command.parse line = .ok c → sources'.disk.read (c.sourcePath sources.root) =
      sources.disk.read (c.sourcePath sources.root)) :
    build sources' line = build sources line := by
  rw [build_eq, build_eq]
  cases hParse : Command.parse line with
  | error fault => rw [Journal.lift_error_bind, Journal.lift_error_bind]
  | ok c =>
    have hAssemble : assemble sources' c = assemble sources c := by
      funext wanted block
      simp only [assemble, hLanguages]
    rw [Journal.lift_ok, pure_bind, pure_bind, fetch_congr hRoot (h c hParse), hAssemble]

/-- Nothing is told of a command that cannot be read. -/
theorem build_of_parse_error (sources : Sources) {line : Text} {fault : Fault}
    (h : Command.parse line = .error fault) : build sources line = Journal.fail fault := by
  rw [build_eq, h, Journal.lift_error_bind]

end Insertion

theorem expandLine_congr (hRoot : sources'.root = sources.root)
    (hLanguages : sources'.languages = sources.languages) (listener : Listener) {line : Text}
    (h : ∀ path, dependency? sources.root line = .ok (some path) →
      sources'.disk.read path = sources.disk.read path) :
    expandLine sources' listener line = expandLine sources listener line := by
  unfold expandLine
  cases hKind : CommandKind.ofLine? line with
  | none => rfl
  | some kind =>
    have hLine : isCommandLine line = true := by
      unfold isCommandLine
      rw [hKind]
      rfl
    rw [Insertion.build_congr hRoot hLanguages fun c hParse =>
      h _ (dependency?_of_parse hLine hParse)]

/-- A command that is kept or replaced was read as a whole. What a listener refuses while that is
done makes no difference, as nothing is told before. -/
theorem parse_of_expandLine {listener : Listener} {line text : Text} {told : List Notice}
    (hLine : isCommandLine line = true)
    (h : (expandLine sources listener line told).outcome = .ok text) :
    ∃ c, Command.parse line = .ok c := by
  cases hParse : Command.parse line with
  | ok c => exact ⟨c, rfl⟩
  | error fault =>
    obtain ⟨kind, hKind⟩ := Option.isSome_iff_exists.mp hLine
    have hFound : fault.kind ≠ .notFound := by
      rcases (Command.failsBy_parse line fault hParse).isWriting with hWriting | hWriting <;>
        simp [hWriting]
    have hFailed (told : List Notice) :
        (Journal.fail fault : Journal Insertion).heardBy listener told = Journal.fail fault := rfl
    simp only [expandLine, hKind, Session.attempt_bind,
      Insertion.build_of_parse_error sources hParse, hFailed] at h
    simp only [Journal.fail, answer, if_neg hFound] at h
    cases h

/-- A line that is kept or replaced has a file that can be listed, unless it is no command. -/
theorem dependency?_of_expandLine {listener : Listener} {line text : Text} {told : List Notice}
    (h : (expandLine sources listener line told).outcome = .ok text) (root : Path) :
    ∃ path, dependency? root line = .ok path := by
  cases hLine : isCommandLine line with
  | false =>
    unfold dependency?
    rw [hLine]
    exact ⟨none, rfl⟩
  | true =>
    obtain ⟨c, hParse⟩ := parse_of_expandLine hLine h
    exact ⟨_, dependency?_of_parse hLine hParse⟩

end

/-! ## Documents -/

namespace Document

variable {sources sources' : Sources} {input root : Path} {paths : List Path}

theorem readLines_congr {disk disk' : Disk} (h : disk'.read input = disk.read input) :
    readLines disk' input = readLines disk input := by
  unfold readLines
  rw [h]

/-- What is listed for a line is listed for its document. -/
theorem mem_dependencies {disk : Disk} (h : dependencies disk input root = .ok paths)
    {lines : List Text} (hLines : readLines disk input = .ok lines) {line : Text}
    (hLine : line ∈ lines) {p : Path} (hPath : dependency? root line = .ok (some p)) :
    p ∈ paths := by
  have hUnbroken := isUnbroken_of_readLines hLines
  rw [dependencies_eq_listed hLines] at h
  apply ((lists_of_listed hUnbroken h).complete p).mpr
  exact ⟨line, hLine, (dependency?_eq_ok_some_iff (hUnbroken line hLine)).mp hPath⟩

theorem expand_congr (hRoot : sources'.root = sources.root)
    (hLanguages : sources'.languages = sources.languages)
    (hInput : sources'.disk.read input = sources.disk.read input)
    (hListed : dependencies sources.disk input sources.root = .ok paths)
    (hRead : ∀ p ∈ paths, sources'.disk.read p = sources.disk.read p) (listener : Listener) :
    expand sources' listener input = expand sources listener input := by
  unfold expand
  rw [readLines_congr hInput]
  cases hLines : readLines sources.disk input with
  | error fault => rw [Session.lift_error_bind, Session.lift_error_bind]
  | ok lines =>
    have hExpanded :
        lines.mapM (expandLine sources' listener) = lines.mapM (expandLine sources listener) :=
      mapM_congr_mem fun line hLine => expandLine_congr hRoot hLanguages listener fun p hPath =>
        hRead p (mem_dependencies hListed hLines hLine hPath)
    rw [Session.lift_ok, pure_bind, pure_bind, hExpanded]

theorem dependency?_of_becomeInTurn {listener : Listener} {told : List Notice}
    {lines texts : List Text} (h : BecomeInTurn sources listener told lines texts) (root : Path) :
    ∀ line ∈ lines, ∃ path, dependency? root line = .ok path := by
  induction h with
  | none told => exact fun line hLine => by cases hLine
  | @plain told line lines texts hLine hRest ih =>
    have hNone : dependency? root line = .ok none := by simp [dependency?, hLine]
    exact List.forall_mem_cons.mpr ⟨⟨none, hNone⟩, ih⟩
  | command hLine hText hRest ih =>
    exact List.forall_mem_cons.mpr ⟨dependency?_of_expandLine hText root, ih⟩

theorem dependencies_of_expand {listener : Listener} {lines expanded : List Text}
    (h : (expand sources listener input []).outcome = .ok (lines, expanded)) (root : Path) :
    ∃ paths, dependencies sources.disk input root = .ok paths := by
  obtain ⟨hLines, hInTurn⟩ := expand_eq_ok_iff.mp h
  obtain ⟨found, hFound⟩ := mapM_ok (dependency?_of_becomeInTurn hInTurn root)
  refine ⟨found.foldl addNew [], ?_⟩
  unfold dependencies
  rw [hLines]
  dsimp only
  rw [hFound]

/-! ## Processing -/

/-- A document is processed in the same way, up to the final write, on every disk that agrees on the
document and on the files that are listed for it; and files can be listed for every document that
can be processed. -/
theorem process_of_dependencies (sources : Sources) (input output : Path) (listener : Listener) :
    (∀ sources' paths, sources'.root = sources.root → sources'.languages = sources.languages →
      sources'.disk.read input = sources.disk.read input →
      dependencies sources.disk input sources.root = .ok paths →
      (∀ p ∈ paths, sources'.disk.read p = sources.disk.read p) →
      (∃ notices fault,
        process sources input output listener = (sources.disk, ⟨notices, .error fault⟩) ∧
        process sources' input output listener = (sources'.disk, ⟨notices, .error fault⟩)) ∨
      (∃ text notices report,
        process sources input output listener =
          writeOut sources.disk output text notices report ∧
        process sources' input output listener =
          writeOut sources'.disk output text notices report)) ∧
    (∀ report, (process sources input output listener).2.outcome = .ok report →
      ∃ paths, dependencies sources.disk input sources.root = .ok paths) := by
  constructor
  · intro sources' paths hRoot hLanguages hInput hListed hRead
    have hExpand := expand_congr hRoot hLanguages hInput hListed hRead listener
    obtain ⟨fault, hFault, hProcess⟩ | ⟨lines, expanded, hOk, hProcess⟩ :=
      process_cases sources input output listener
    · refine .inl ⟨_, fault, hProcess, ?_⟩
      obtain ⟨fault', hFault', hProcess'⟩ | ⟨lines, expanded, hOk', -⟩ :=
        process_cases sources' input output listener
      · rw [hExpand] at hFault' hProcess'
        rw [hFault] at hFault'
        cases hFault'
        exact hProcess'
      · rw [hExpand, hFault] at hOk'
        cases hOk'
    · refine .inr ⟨_, _, _, hProcess, ?_⟩
      obtain ⟨fault', hFault', -⟩ | ⟨lines', expanded', hOk', hProcess'⟩ :=
        process_cases sources' input output listener
      · rw [hExpand, hOk] at hFault'
        cases hFault'
      · rw [hExpand] at hOk' hProcess'
        rw [hOk] at hOk'
        cases hOk'
        exact hProcess'
  · intro report hReport
    obtain ⟨fault, -, hProcess⟩ | ⟨lines, expanded, hOk, -⟩ :=
      process_cases sources input output listener
    · rw [hProcess] at hReport
      cases hReport
    · exact dependencies_of_expand hOk sources.root

/-- A document that inserts the first line of one file, beside another file with any content. -/
def sourcesBeside (other : Bytes) : Sources :=
  let document := CommandKind.direct.keyword ++ ['(', 'f', ':', '1', ')']
  { disk :=
      { entries := [([['d']], .file (Utf8.encode document)), ([['f']], .file (Utf8.encode ['x'])),
          ([['g']], .file other)]
        home := [] } }

/-- The other file does not count. -/
theorem process_beside :
    (process (sourcesBeside [1]) ⟨.relative, [['d']]⟩ ⟨.relative, [['o']]⟩ .keeping).2.outcome =
      (process (sourcesBeside []) ⟨.relative, [['d']]⟩ ⟨.relative, [['o']]⟩ .keeping).2.outcome ∧
    ∃ paths, dependencies (sourcesBeside []).disk ⟨.relative, [['d']]⟩ ⟨.relative, []⟩ =
      .ok paths := by
  obtain ⟨hSame, hListed⟩ := process_of_dependencies (sourcesBeside []) ⟨.relative, [['d']]⟩
    ⟨.relative, [['o']]⟩ .keeping
  constructor
  · obtain ⟨notices, fault, h, h'⟩ | ⟨text, notices, report, h, h'⟩ :=
      hSame (sourcesBeside [1]) [⟨.relative, [['f']]⟩] rfl rfl (by decide) (by decide) (by decide)
    · rw [h, h']
    · rw [h, h']
      rfl
  · exact hListed ⟨⟨.relative, [['d']]⟩, ⟨.relative, [['o']]⟩, 1, 1, 0⟩ (by decide +kernel)

end Document

end Excerpt
