import Excerpt.Proofs.Command.Phases
import Excerpt.Proofs.Document.Output

/-!
# The listing of a document

The files of a document are listed in the order in which its lines use them first. Each line is
taken behind those before it: it adds its file at the end, unless that is listed already or the
line uses none. So a document with more lines at its end has a listing with more files at its end,
and of a command only what stands in front of its closing parenthesis counts.

* `Document.targetName_eq_ok_iff`, `Document.dependency?_eq_ok_some_iff`: the file of a line.
* `Document.Lists.kept`, `Document.Lists.added`: one line more.
* `Document.lists_of_listed`: all lines.
* `Document.alike_dependency?`: lines with the same head.
* `Document.dependencies_listing`: the listing of a document.
-/

namespace Excerpt

theorem CommandHead.chomp_of_isUnbroken {line : Text} (h : line.IsUnbroken) :
    chomp line = line := by
  have hLast : ∀ c ∈ line.getLast?, c ≠ '\r' ∧ c ≠ '\n' := by
    intro c hc
    have hMem := List.mem_of_getLast? hc
    exact ⟨fun hReturn => h.2 (hReturn ▸ hMem), fun hFeed => h.1 (hFeed ▸ hMem)⟩
  have hChomp := chomp_append hLast []
  rwa [List.append_nil, show chomp [] = [] from rfl, List.append_nil] at hChomp

namespace Document

/-! ## The file of a line -/

/-- Whether the line is a command with a head that is in order, and names the file. -/
def NamesFile (line file : Text) : Prop :=
  ∃ (kind : CommandKind) (name address suffixes : Text),
    line = kind.keyword ++ '(' :: (name ++ ':' :: address ++ ')' :: suffixes) ∧
    (∀ c ∈ name ++ ':' :: address, CommandHead.InTarget c) ∧ ':' ∉ address ∧
    file = name.trim ∧ file ≠ []

/-- Whether the line is a command with a head that is not in order. -/
def HasBadHead (line : Text) : Prop := isCommandLine line = true ∧ ∀ file, ¬ NamesFile line file

/-- Whether the line is a command that takes its code from the path. -/
def Uses (root : Path) (line : Text) (p : Path) : Prop :=
  ∃ file, NamesFile line file ∧ p = root.join (Path.ofText file)

variable {line file : Text} {root p q : Path}

theorem NamesFile.isCommandLine (h : NamesFile line file) : isCommandLine line = true := by
  obtain ⟨kind, name, address, suffixes, rfl, -⟩ := h
  exact isCommandLine_iff.mpr ⟨kind, List.prefix_append _ _⟩

theorem targetName_eq_ok_iff (hLine : line.IsUnbroken) :
    Command.targetName line = .ok file ↔ NamesFile line file := by
  have hChomp := CommandHead.chomp_of_isUnbroken hLine
  unfold Command.targetName
  rw [map_eq_ok_iff]
  constructor
  · rintro ⟨head, hRead, rfl⟩
    obtain ⟨name, address, hText, hTarget, -, hColon, hName, hFile, -⟩ :=
      CommandHead.read_eq_ok_iff.mp hRead
    rw [hChomp] at hText
    exact ⟨head.kind, name, address, head.suffixes, hText, hTarget, hColon, hFile, hFile ▸ hName⟩
  · rintro ⟨kind, name, address, suffixes, hText, hTarget, hColon, rfl, hName⟩
    have hFeed : '\n' ∉ suffixes := by
      intro hMem
      apply hLine.1
      rw [hText]
      simp [hMem]
    refine ⟨⟨kind, name.trim, address.trim, suffixes⟩, CommandHead.read_eq_ok_iff.mpr ?_, rfl⟩
    exact ⟨name, address, hChomp.trans hText, hTarget, hFeed, hColon, hName, rfl, rfl⟩

theorem dependency?_eq_ok_none_iff :
    dependency? root line = .ok none ↔ isCommandLine line = false := by
  unfold dependency?
  cases isCommandLine line with
  | false => simp
  | true =>
    rw [if_pos rfl, map_eq_ok_iff]
    simp

theorem dependency?_eq_ok_some_iff (hLine : line.IsUnbroken) :
    dependency? root line = .ok (some p) ↔ Uses root line p := by
  unfold dependency? Uses
  split
  · rw [map_eq_ok_iff]
    refine exists_congr fun file => ?_
    rw [targetName_eq_ok_iff hLine, Option.some.injEq, eq_comm (a := p)]
  · rename_i hNone
    refine iff_of_false nofun ?_
    rintro ⟨file, hFile, -⟩
    exact hNone hFile.isCommandLine

theorem exists_dependency?_iff (hLine : line.IsUnbroken) :
    (∃ path, dependency? root line = .ok path) ↔ ¬ HasBadHead line := by
  constructor
  · rintro ⟨path, hPath⟩ ⟨hCommand, hNone⟩
    cases path with
    | none =>
      rw [dependency?_eq_ok_none_iff, hCommand] at hPath
      cases hPath
    | some p =>
      obtain ⟨file, hFile, -⟩ := (dependency?_eq_ok_some_iff hLine).mp hPath
      exact hNone file hFile
  · intro hHead
    cases hCommand : isCommandLine line with
    | false => exact ⟨none, dependency?_eq_ok_none_iff.mpr hCommand⟩
    | true =>
      have hFile : ∃ file, NamesFile line file := by
        by_contra hNone
        exact hHead ⟨hCommand, not_exists.mp hNone⟩
      obtain ⟨file, hFile⟩ := hFile
      exact ⟨_, (dependency?_eq_ok_some_iff hLine).mpr ⟨file, hFile, rfl⟩⟩

theorem failsBy_dependency? (root : Path) (line : Text) :
    FailsBy (·.kind = .parse) (dependency? root line) := by
  unfold dependency?
  split
  · exact failsBy_map (failsBy_map (CommandHead.failsBy_read line) _) _
  · exact failsBy_ok _

/-! ## Lines with the same head -/

/-- Whether the lines are the same, but for what stands behind the first closing parenthesis. -/
inductive SameHead : Text → Text → Prop
  | refl (line : Text) : SameHead line line
  | behind {head : Text} (hHead : ')' ∉ head) (tail tail' : Text) :
      SameHead (head ++ ')' :: tail) (head ++ ')' :: tail')

variable {line' : Text}

theorem SameHead.symm (h : SameHead line line') : SameHead line' line := by
  cases h with
  | refl => exact .refl _
  | behind hHead tail tail' => exact .behind hHead tail' tail

theorem not_mem_keyword (kind : CommandKind) : ')' ∉ kind.keyword := by
  cases kind <;> decide

theorem SameHead.isCommandLine (h : SameHead line line') (hLine : isCommandLine line = true) :
    isCommandLine line' = true := by
  cases h with
  | refl => exact hLine
  | @behind head hHead tail tail' =>
    obtain ⟨kind, hKind⟩ := isCommandLine_iff.mp hLine
    have hFront := Text.prefix_of_not_mem hKind (not_mem_keyword kind)
    exact isCommandLine_iff.mpr ⟨kind, hFront.trans (List.prefix_append _ _)⟩

theorem NamesFile.of_sameHead (h : NamesFile line file) (hSame : SameHead line line') :
    NamesFile line' file := by
  cases hSame with
  | refl => exact h
  | @behind head hHead tail tail' =>
    obtain ⟨kind, name, address, suffixes, hText, hTarget, hColon, hFile, hName⟩ := h
    have hFront : ')' ∉ kind.keyword ++ '(' :: (name ++ ':' :: address) := by
      intro hMem
      rcases List.mem_append.mp hMem with hMem | hMem
      · exact not_mem_keyword kind hMem
      · rcases List.mem_cons.mp hMem with hParen | hMem
        · cases hParen
        · exact (hTarget _ hMem).2 rfl
    have hShape (rest : Text) :
        kind.keyword ++ '(' :: (name ++ ':' :: address ++ ')' :: rest) =
          kind.keyword ++ '(' :: (name ++ ':' :: address) ++ ')' :: rest := by
      simp
    have hCut := Text.cut_append hHead tail
    rw [hText, hShape, Text.cut_append hFront] at hCut
    cases hCut
    exact ⟨kind, name, address, tail', (hShape tail').symm, hTarget, hColon, hFile, hName⟩

theorem Uses.of_sameHead (h : Uses root line p) (hSame : SameHead line line') :
    Uses root line' p := by
  obtain ⟨file, hFile, hp⟩ := h
  exact ⟨file, hFile.of_sameHead hSame, hp⟩

theorem HasBadHead.of_sameHead (h : HasBadHead line) (hSame : SameHead line line') :
    HasBadHead line' := by
  refine ⟨hSame.isCommandLine h.1, fun file hFile => ?_⟩
  exact h.2 file (hFile.of_sameHead hSame.symm)

theorem alike_dependency? (hLine : line.IsUnbroken) (hLine' : line'.IsUnbroken)
    (hSame : SameHead line line') (root : Path) :
    Alike (dependency? root line) (dependency? root line') := by
  cases hPath : dependency? root line with
  | error fault =>
    have hBad : HasBadHead line := by
      by_contra hGood
      obtain ⟨path, hOk⟩ := (exists_dependency?_iff hLine).mpr hGood
      cases hPath.symm.trans hOk
    cases hPath' : dependency? root line' with
    | error fault' =>
      rw [alike_error_iff, failsBy_dependency? root line fault hPath,
        failsBy_dependency? root line' fault' hPath']
    | ok path =>
      exact absurd (hBad.of_sameHead hSame) ((exists_dependency?_iff hLine').mp ⟨path, hPath'⟩)
  | ok path =>
    have hPath' : dependency? root line' = .ok path := by
      cases path with
      | none =>
        rw [dependency?_eq_ok_none_iff] at hPath ⊢
        rw [← Bool.not_eq_true] at hPath ⊢
        exact fun hCommand => hPath (hSame.symm.isCommandLine hCommand)
      | some p =>
        rw [dependency?_eq_ok_some_iff hLine] at hPath
        exact (dependency?_eq_ok_some_iff hLine').mpr (hPath.of_sameHead hSame)
    rw [hPath']
    exact alike_refl _

/-! ## One line more -/

/-- Whether the one path is used before any use of the other. -/
def UsedBefore (root : Path) (lines : List Text) (p q : Path) : Prop :=
  ∃ before line behind, lines = before ++ line :: behind ∧ Uses root line p ∧
    ∀ other ∈ before ++ [line], ¬ Uses root other q

/-- The paths that the lines use, without repetition, in the order of their first use. -/
structure Lists (root : Path) (lines : List Text) (paths : List Path) : Prop where
  nodup : paths.Nodup
  complete : ∀ p, p ∈ paths ↔ ∃ line ∈ lines, Uses root line p
  ordered : paths.Pairwise (UsedBefore root lines)

variable {lines more : List Text} {paths : List Path}

theorem UsedBefore.append (h : UsedBefore root lines p q) (more : List Text) :
    UsedBefore root (lines ++ more) p q := by
  obtain ⟨before, line, behind, rfl, hUses, hNone⟩ := h
  exact ⟨before, line, behind ++ more, by simp, hUses, hNone⟩

namespace Lists

theorem nil (root : Path) : Lists root [] [] := ⟨List.nodup_nil, by simp, .nil⟩

/-- A line that uses no path that is new leaves the listing as it is. -/
theorem kept (h : Lists root lines paths) (hUses : ∀ p, Uses root line p → p ∈ paths) :
    Lists root (lines ++ [line]) paths where
  nodup := h.nodup
  complete := by
    intro p
    rw [h.complete p]
    constructor
    · rintro ⟨other, hOther, hp⟩
      exact ⟨other, List.mem_append_left _ hOther, hp⟩
    · rintro ⟨other, hOther, hp⟩
      rcases List.mem_append.mp hOther with hOther | hOther
      · exact ⟨other, hOther, hp⟩
      · rw [List.mem_singleton.mp hOther] at hp
        exact (h.complete p).mp (hUses p hp)
  ordered := h.ordered.imp fun hBefore => hBefore.append [line]

/-- A new path stands behind those that were used before it. -/
theorem added (h : Lists root lines paths) (hUses : ∀ q, Uses root line q ↔ q = p)
    (hNew : p ∉ paths) : Lists root (lines ++ [line]) (paths ++ [p]) where
  nodup := by
    rw [List.nodup_append]
    refine ⟨h.nodup, List.nodup_singleton p, ?_⟩
    intro q hq r hr hEq
    rw [hEq, List.mem_singleton.mp hr] at hq
    exact hNew hq
  complete := by
    intro q
    simp only [List.mem_append, List.mem_singleton, or_and_right, exists_or, exists_eq_left,
      h.complete q, hUses q]
  ordered := by
    rw [List.pairwise_append]
    refine ⟨h.ordered.imp fun hBefore => hBefore.append [line], List.pairwise_singleton _ _, ?_⟩
    intro q hq r hr
    obtain rfl := List.mem_singleton.mp hr
    -- `q` was used by a line before the new one, and `r` by none of those lines
    obtain ⟨other, hOther, hUsed⟩ := (h.complete q).mp hq
    obtain ⟨before, behind, rfl⟩ := List.append_of_mem hOther
    refine ⟨before, other, behind ++ [line], by simp, hUsed, ?_⟩
    intro earlier hEarlier hEarlierUses
    refine hNew ((h.complete r).mpr ⟨earlier, ?_, hEarlierUses⟩)
    rw [List.append_cons]
    exact List.mem_append_left _ hEarlier

theorem step (h : Lists root lines paths) (hLine : line.IsUnbroken) {path : Option Path}
    (hPath : dependency? root line = .ok path) :
    Lists root (lines ++ [line]) (addNew paths path) := by
  have hUses (q : Path) : Uses root line q ↔ path = some q := by
    rw [← dependency?_eq_ok_some_iff hLine, hPath, Except.ok.injEq]
  unfold addNew
  cases path with
  | none =>
    apply h.kept
    intro q hq
    cases (hUses q).mp hq
  | some p =>
    dsimp only
    split
    · rename_i hKnown
      apply h.kept
      intro q hq
      cases (hUses q).mp hq
      exact hKnown
    · rename_i hNew
      refine h.added (fun q => ?_) hNew
      rw [hUses q, Option.some.injEq, eq_comm]

end Lists

/-! ## All lines -/

/-- What is listed for lines. -/
def listed (root : Path) (lines : List Text) : Except Fault (List Path) :=
  (lines.mapM (dependency? root)).map fun found => found.foldl addNew []

theorem dependencies_eq_listed {disk : Disk} {input : Path} (h : readLines disk input = .ok lines)
    (root : Path) : dependencies disk input root = listed root lines := by
  unfold dependencies listed
  rw [h]
  dsimp only
  cases lines.mapM (dependency? root) <;> rfl

theorem failsBy_listed (root : Path) (lines : List Text) :
    FailsBy (·.kind = .parse) (listed root lines) :=
  failsBy_map (failsBy_mapM fun line _ => failsBy_dependency? root line) _

theorem exists_listed_iff (hLines : ∀ line ∈ lines, line.IsUnbroken) :
    (∃ paths, listed root lines = .ok paths) ↔ ∀ line ∈ lines, ¬ HasBadHead line := by
  constructor
  · rintro ⟨paths, hListed⟩ line hLine
    obtain ⟨found, hFound, -⟩ := map_eq_ok_iff.mp hListed
    obtain ⟨path, -, hPath⟩ := ok_of_mapM hFound hLine
    exact (exists_dependency?_iff (hLines line hLine)).mp ⟨path, hPath⟩
  · intro hHeads
    obtain ⟨found, hFound⟩ := mapM_ok fun line hLine =>
      (exists_dependency?_iff (hLines line hLine)).mpr (hHeads line hLine)
    exact ⟨_, map_eq_ok_iff.mpr ⟨found, hFound, rfl⟩⟩

theorem listed_append : listed root (lines ++ more) = .ok paths ↔
    ∃ front found, listed root lines = .ok front ∧ more.mapM (dependency? root) = .ok found ∧
      found.foldl addNew front = paths := by
  unfold listed
  rw [List.mapM_append, map_eq_ok_iff]
  constructor
  · rintro ⟨all, hAll, rfl⟩
    obtain ⟨front, hFront, hAll⟩ := bind_eq_ok_iff.mp hAll
    obtain ⟨found, hFound, hAll⟩ := bind_eq_ok_iff.mp hAll
    cases hAll
    exact ⟨_, found, map_eq_ok_iff.mpr ⟨front, hFront, rfl⟩, hFound, by rw [List.foldl_append]⟩
  · rintro ⟨_, found, hFront, hFound, rfl⟩
    obtain ⟨before, hBefore, rfl⟩ := map_eq_ok_iff.mp hFront
    refine ⟨before ++ found, ?_, by rw [List.foldl_append]⟩
    rw [hBefore, hFound]
    rfl

theorem lists_of_listed (hLines : ∀ line ∈ lines, line.IsUnbroken)
    (h : listed root lines = .ok paths) : Lists root lines paths := by
  induction lines using List.reverseRecOn generalizing paths with
  | nil =>
    cases h
    exact .nil root
  | append_singleton lines line ih =>
    obtain ⟨front, found, hFront, hFound, rfl⟩ := listed_append.mp h
    obtain ⟨path, rest, hPath, hRest, rfl⟩ :=
      List.forall₂_cons_left_iff.mp (mapM_eq_ok_iff.mp hFound)
    obtain rfl := List.forall₂_nil_left_iff.mp hRest
    have hBefore := ih (fun other hOther => hLines other (List.mem_append_left _ hOther)) hFront
    exact hBefore.step (hLines line (by simp)) hPath

theorem prefix_foldl_addNew (paths : List Path) (found : List (Option Path)) :
    paths <+: found.foldl addNew paths := by
  induction found generalizing paths with
  | nil => exact List.prefix_rfl
  | cons path found ih =>
    refine List.IsPrefix.trans ?_ (ih (addNew paths path))
    unfold addNew
    split
    · split
      · exact List.prefix_rfl
      · exact List.prefix_append _ _
    · exact List.prefix_rfl

/-- More lines with heads that are in order only add files at the end. -/
theorem exists_listed_append (hLines : ∀ line ∈ more, line.IsUnbroken)
    (hHeads : ∀ line ∈ more, ¬ HasBadHead line) (h : listed root lines = .ok paths) :
    ∃ new, listed root (lines ++ more) = .ok (paths ++ new) := by
  obtain ⟨found, hFound⟩ := mapM_ok fun line hLine =>
    (exists_dependency?_iff (hLines line hLine)).mpr (hHeads line hLine)
  obtain ⟨new, hNew⟩ := prefix_foldl_addNew paths found
  exact ⟨new, listed_append.mpr ⟨paths, found, h, hFound, hNew.symm⟩⟩

theorem alike_listed {lines' : List Text} (hLines : ∀ line ∈ lines, line.IsUnbroken)
    (hLines' : ∀ line ∈ lines', line.IsUnbroken) (h : List.Forall₂ SameHead lines lines')
    (root : Path) : Alike (listed root lines) (listed root lines') := by
  have hRight := ((List.forall₂_and_left _ _).mpr ⟨hLines', h.flip⟩).flip
  have hBoth := (List.forall₂_and_left _ _).mpr ⟨hLines, hRight⟩
  refine alike_map (alike_mapM_of_forall₂ (hBoth.imp fun line line' hPair => ?_)) _
  obtain ⟨hLine, hLine', hSame⟩ := hPair
  exact alike_dependency? hLine hLine' hSame root

/-! ## Documents -/

/-- A document has a listing unless it holds a command with a bad head, and the listing has the files
that its commands name, each at its first use. What stands behind the heads does not count, and more
lines at the end add only to the end. -/
theorem dependencies_listing {disk : Disk} {input : Path} (h : readLines disk input = .ok lines)
    (root : Path) :
    ((∃ fault, dependencies disk input root = .error fault ∧ fault.kind = .parse) ↔
      ∃ line ∈ lines, HasBadHead line) ∧
    ((¬ ∃ line ∈ lines, HasBadHead line) →
      ∃ paths, dependencies disk input root = .ok paths ∧ Lists root lines paths) ∧
    (∀ disk' input' lines', readLines disk' input' = .ok lines' →
      List.Forall₂ SameHead lines lines' →
      Alike (dependencies disk input root) (dependencies disk' input' root)) ∧
    ∀ disk' input' more paths, readLines disk' input' = .ok (lines ++ more) →
      (¬ ∃ line ∈ more, HasBadHead line) → dependencies disk input root = .ok paths →
      ∃ new, dependencies disk' input' root = .ok (paths ++ new) := by
  have hLines := isUnbroken_of_readLines h
  rw [dependencies_eq_listed h]
  refine ⟨?_, ?_, ?_, ?_⟩
  · constructor
    · rintro ⟨fault, hFault, -⟩
      by_contra hNone
      obtain ⟨paths, hListed⟩ := (exists_listed_iff hLines).mpr
        fun line hLine hBad => hNone ⟨line, hLine, hBad⟩
      cases hFault.symm.trans hListed
    · rintro ⟨line, hLine, hBad⟩
      cases hListed : listed root lines with
      | error fault => exact ⟨fault, rfl, failsBy_listed root lines fault hListed⟩
      | ok paths => exact absurd hBad ((exists_listed_iff hLines).mp ⟨paths, hListed⟩ line hLine)
  · intro hNone
    obtain ⟨paths, hListed⟩ := (exists_listed_iff hLines).mpr
      fun line hLine hBad => hNone ⟨line, hLine, hBad⟩
    exact ⟨paths, hListed, lists_of_listed hLines hListed⟩
  · intro disk' input' lines' h' hSame
    rw [dependencies_eq_listed h']
    exact alike_listed hLines (isUnbroken_of_readLines h') hSame root
  · intro disk' input' more paths h' hNone hListed
    rw [dependencies_eq_listed h']
    refine exists_listed_append (fun line hLine => ?_) (fun line hLine hBad => ?_) hListed
    · exact isUnbroken_of_readLines h' line (List.mem_append_right _ hLine)
    · exact hNone ⟨line, hLine, hBad⟩

/-- The lines as a document with the name `d`. -/
def diskWith (lines : List Text) : Disk :=
  { entries := [([['d']], .file (Utf8.encode (Text.join ['\n'] lines)))], home := [] }

/-- One file that is spelled in two ways, and another one, with text behind the commands. -/
def spelledLines : List Text :=
  ["insert_code(a//b:1)(".toList, "rev_insert_code( /c :k)".toList, "x".toList,
    "insert_code(./a/b:2)[h1]".toList]

/-- The file is listed once, at its first use, and the text behind the commands does not count. -/
theorem dependencies_listing_spelled :
    (∃ paths, dependencies (diskWith spelledLines) ⟨.relative, [['d']]⟩ ⟨.relative, [['r']]⟩ =
      .ok paths ∧ Lists ⟨.relative, [['r']]⟩ spelledLines paths) ∧
    ∃ new, dependencies (diskWith (spelledLines ++ ["insert_code(e:0)".toList]))
      ⟨.relative, [['d']]⟩ ⟨.relative, [['r']]⟩ =
        .ok ([⟨.relative, [['r'], ['a'], ['b']]⟩, ⟨.slash, [['c']]⟩] ++ new) := by
  have hRead : readLines (diskWith spelledLines) ⟨.relative, [['d']]⟩ = .ok spelledLines := by
    decide +kernel
  have hLast : NamesFile "insert_code(e:0)".toList ['e'] :=
    ⟨.direct, ['e'], ['0'], [], by decide, by simp [CommandHead.InTarget], by decide, by decide,
      by decide⟩
  obtain ⟨hFaults, hListed, -, hMore⟩ := dependencies_listing hRead ⟨.relative, [['r']]⟩
  have hPaths : dependencies (diskWith spelledLines) ⟨.relative, [['d']]⟩ ⟨.relative, [['r']]⟩ =
      .ok [⟨.relative, [['r'], ['a'], ['b']]⟩, ⟨.slash, [['c']]⟩] := by
    decide +kernel
  constructor
  · apply hListed
    intro hBad
    obtain ⟨fault, hFault, -⟩ := hFaults.mpr hBad
    cases hPaths.symm.trans hFault
  · refine hMore _ _ ["insert_code(e:0)".toList] _ (by decide +kernel) ?_ hPaths
    rintro ⟨line, hLine, hBad⟩
    rw [List.mem_singleton.mp hLine] at hBad
    exact hBad.2 _ hLast

end Document

end Excerpt
