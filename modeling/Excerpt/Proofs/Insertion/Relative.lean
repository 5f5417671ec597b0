import Excerpt.Proofs.Insertion.Announcement
import Excerpt.Proofs.Selector.Renumbered

/-!
# Relative selectors and absolute ones

A selector that counts from the block is brought onto the lines of the block item by item, and is
absolute from then on. So it can as well be written as an absolute one, if `base.first - 1` is added
to each of its line numbers: what is then inserted is the same, and so is every fault.

* `Item.liesOn_shift`: an item on the lines of a block.
* `Suffixes.Agrees.addPiece`, `Suffixes.splitFrom_renumbered`: suffixes with other numbers ask for
  the same.
* `Insertion.build_renumbered`: a command with other suffixes.
* `relative_eq_renumbered`: relative selectors, resolved and rewritten.
-/

namespace Excerpt

/-! ## Items on a block -/

/-- Whether two items are of one kind, and name the same columns if they name any. -/
inductive Item.Resembles : Item → Item → Prop
  | line (l l' : LineNumber) : Resembles (.line l) (.line l')
  | range (r r' : LineRange) : Resembles (.range r) (.range r')
  | columns {c c' : CharRange} (hFirst : c'.first = c.first) (hLast : c'.last = c.last) :
      Resembles (.columns c) (.columns c')

/-- Whether an item is another one on the lines of a block, counted from the first of them. -/
structure Item.LiesOn (base : LineRange) (item item' : Item) : Prop where
  resembles : item.Resembles item'
  contains : ∀ n : Int, item'.contains (n + base.first - 1) = item.contains n

theorem Item.liesOn_shift (item : Item) (base : LineRange) :
    item.LiesOn base (item.shift (base.first - 1)) := by
  have hBase := base.one_le_first
  constructor
  · cases item with
    | line l => exact .line l _
    | range r => exact .range r _
    | columns c => exact .columns rfl rfl
  · intro n
    have hLine : n + base.first - 1 = n + (base.first - 1 : Nat) := by omega
    rw [hLine, contains_shift]

theorem Highlights.onto_onto (h : Highlights) (base base' : LineRange) :
    (h.onto base).onto base' = h.onto base := by
  obtain ⟨items, mode⟩ := h
  cases mode <;> rfl

theorem Edits.onto_onto (e : Edits) (base base' : LineRange) :
    (e.onto base).onto base' = e.onto base := by
  obtain ⟨items, mode⟩ := e
  cases mode <;> rfl

/-! ## Suffixes with other numbers -/

/-- What the suffixes of a command ask for, by lines of the file. -/
def Instructions.onto (base : LineRange) (wanted : Instructions) : Instructions :=
  ⟨wanted.options, wanted.highlights.onto base, wanted.edits.onto base⟩

namespace Suffixes

/-- The second piece is the first one, or an absolute selector in place of a relative one that is
read, with `k` added to its line numbers. -/
inductive RenumbersPiece (k : Nat) : Piece → Piece → Prop
  | same (p : Piece) : RenumbersPiece k p p
  | highlights {body body' : Text} {h : Highlights}
      (hRead : readHighlights (some ⟨body, .relative⟩) = .ok h)
      (hBody : RenumbersBody (RenumbersBlock k) body body') (hShort : ¬ body'.HasLongRun) :
      RenumbersPiece k ⟨.brace, ⟨body, .relative⟩⟩ ⟨.brace, ⟨body', .absolute⟩⟩
  | edits {body body' : Text} {e : Edits}
      (hRead : (readEdits (some ⟨body, .relative⟩)).outcome = .ok e)
      (hBody : RenumbersBody (RenumbersEdit k) body body') (hShort : ¬ body'.HasLongRun) :
      RenumbersPiece k ⟨.angle, ⟨body, .relative⟩⟩ ⟨.angle, ⟨body', .absolute⟩⟩

/-- The second text is the first one with other pieces, written in the same places. -/
inductive RenumbersText (k : Nat) : Text → Text → Prop
  | nil {gap : Text} (hGap : gap.isBlank = true) : RenumbersText k gap gap
  | cons {gap rest rest' : Text} {p p' : Piece} (hGap : gap.isBlank = true) (hClosed : p.IsClosed)
      (hPiece : RenumbersPiece k p p') (hRest : RenumbersText k rest rest') :
      RenumbersText k (gap ++ (p.text ++ rest)) (gap ++ (p'.text ++ rest'))

/-- Whether suffixes ask for the same by lines of the file, or fail alike. -/
structure Agrees (base : LineRange) (s s' : Suffixes) : Prop where
  has : ∀ bracket, s'.has bracket = s.has bracket
  options : s'.options = s.options
  highlights : (readHighlights s'.highlight).map (Highlights.onto base) =
    (readHighlights s.highlight).map (Highlights.onto base)
  edits : (readEdits s'.edit).outcome.map (Edits.onto base) =
    (readEdits s.edit).outcome.map (Edits.onto base)

variable {k : Nat} {p p' : Piece} {base : LineRange} {s s' : Suffixes}

namespace RenumbersPiece

theorem bracket_eq (h : RenumbersPiece k p p') : p'.bracket = p.bracket := by
  cases h <;> rfl

theorem isClosed (h : RenumbersPiece k p p') (hClosed : p.IsClosed) : p'.IsClosed := by
  cases h with
  | same p => exact hClosed
  | highlights _ hBody _ =>
    exact ⟨hBody.balanced (fun _ _ hBlock => hBlock.rewrites) hClosed.balanced, nofun⟩
  | edits _ hBody _ =>
    exact ⟨hBody.balanced (fun _ _ hEdit => hEdit.rewrites) hClosed.balanced, nofun⟩

theorem readHighlights_onto {body body' : Text} {h : Highlights}
    (hRead : readHighlights (some ⟨body, .relative⟩) = .ok h)
    (hBody : RenumbersBody (RenumbersBlock (base.first - 1)) body body')
    (hShort : ¬ body'.HasLongRun) :
    (readHighlights (some ⟨body', .absolute⟩)).map (Highlights.onto base) =
      (readHighlights (some ⟨body, .relative⟩)).map (Highlights.onto base) := by
  obtain ⟨items, mode⟩ := h
  obtain rfl : mode = .relative := mode_of_readHighlights hRead
  rw [hBody.readHighlights_eq hShort hRead, hRead]
  rfl

theorem readEdits_onto {body body' : Text} {e : Edits}
    (hRead : (readEdits (some ⟨body, .relative⟩)).outcome = .ok e)
    (hBody : RenumbersBody (RenumbersEdit (base.first - 1)) body body')
    (hShort : ¬ body'.HasLongRun) :
    (readEdits (some ⟨body', .absolute⟩)).outcome.map (Edits.onto base) =
      (readEdits (some ⟨body, .relative⟩)).outcome.map (Edits.onto base) := by
  obtain ⟨edits, mode⟩ := e
  obtain rfl : mode = .relative := mode_of_readEdits hRead
  rw [hBody.readEdits_eq hShort hRead, hRead]
  rfl

end RenumbersPiece

namespace Agrees

theorem refl (base : LineRange) (s : Suffixes) : Agrees base s s := ⟨fun _ => rfl, rfl, rfl, rfl⟩

theorem addPiece (h : Agrees base s s') (hPiece : RenumbersPiece (base.first - 1) p p') :
    Agrees base (s.addPiece p) (s'.addPiece p') := by
  have hHas (bracket : Bracket) : (s'.addPiece p').has bracket = (s.addPiece p).has bracket := by
    rw [Suffixes.addPiece, Suffixes.addPiece, has_add, has_add, hPiece.bracket_eq, h.has]
  cases hPiece with
  | same p =>
    obtain ⟨bracket, source⟩ := p
    cases bracket with
    | brace => exact ⟨hHas, h.options, rfl, h.edits⟩
    | angle => exact ⟨hHas, h.options, h.highlights, rfl⟩
    | square => exact ⟨hHas, rfl, h.highlights, h.edits⟩
  | highlights hRead hBody hShort =>
    exact ⟨hHas, h.options, RenumbersPiece.readHighlights_onto hRead hBody hShort, h.edits⟩
  | edits hRead hBody hShort =>
    exact ⟨hHas, h.options, h.highlights, RenumbersPiece.readEdits_onto hRead hBody hShort⟩

end Agrees

theorem splitFrom_renumbered {t t' whole : Text} {found found' : Suffixes}
    (h : RenumbersText (base.first - 1) t t') (hFound : Agrees base found found')
    (hSplit : splitFrom whole found t = .ok s) (whole' : Text) :
    ∃ s', splitFrom whole' found' t' = .ok s' ∧ Agrees base s s' := by
  induction h generalizing found found' with
  | nil hGap =>
    rw [splitFrom_of_isBlank hGap] at hSplit
    obtain rfl := Except.ok.inj hSplit
    exact ⟨found', splitFrom_of_isBlank hGap whole' found', hFound⟩
  | @cons gap rest rest' p p' hGap hClosed hPiece _ ih =>
    rw [splitFrom_text_eq hGap hClosed] at hSplit
    split at hSplit
    · cases hSplit
    · rename_i hNew
      rw [splitFrom_text_eq hGap (hPiece.isClosed hClosed), hPiece.bracket_eq, hFound.has,
        if_neg hNew, ← hPiece.bracket_eq]
      exact ih (hFound.addPiece hPiece) hSplit

/-- The order in which suffixes are read, and what of it depends on the lines of the block. -/
theorem outcome_read_onto (s : Suffixes) (base : LineRange) :
    s.read.outcome.map (Instructions.onto base) =
      (RenderOptions.read s.options).outcome >>= fun options =>
        (readHighlights s.highlight).map (Highlights.onto base) >>= fun highlights =>
          ((readEdits s.edit).outcome.map (Edits.onto base)).map fun edits =>
            ⟨options, highlights, edits⟩ := by
  rw [outcome_read]
  cases (RenderOptions.read s.options).outcome with
  | error fault => rfl
  | ok options =>
    cases readHighlights s.highlight with
    | error fault => rfl
    | ok highlights => cases (readEdits s.edit).outcome <;> rfl

theorem Agrees.outcome_read (h : Agrees base s s') :
    s'.read.outcome.map (Instructions.onto base) = s.read.outcome.map (Instructions.onto base) := by
  rw [outcome_read_onto, outcome_read_onto, h.options, h.highlights, h.edits]

end Suffixes

/-! ## Commands with other suffixes -/

namespace Command

/-- Only the fault of an address tells of the line around it. -/
theorem readAddress_of_ok {line : Text} {head : CommandHead} {address : Address}
    (h : readAddress line head = .ok address) (line' tail' : Text) :
    readAddress line' { head with suffixes := tail' } = .ok address := by
  obtain ⟨kind, filename, text, tail⟩ := head
  unfold readAddress at h ⊢
  cases kind with
  | direct => exact h
  | marker =>
    dsimp only at h ⊢
    split at h
    · cases h
    · rename_i hId
      rw [if_neg hId]
      exact h

theorem parse_of_parts {line : Text} {head : CommandHead} {s : Suffixes} {address : Address}
    (hHead : CommandHead.read line = .ok head) (hSplit : Suffixes.split head.suffixes = .ok s)
    (hAddress : readAddress line head = .ok address) :
    parse line = .ok ⟨head.filename, address, s⟩ := by
  rw [parse_eq, hHead]
  refine bind_eq_ok_iff.mpr ⟨head, rfl, bind_eq_ok_iff.mpr ⟨s, hSplit, ?_⟩⟩
  exact map_eq_ok_iff.mpr ⟨address, hAddress, rfl⟩

end Command

namespace Insertion

variable {sources : Sources} {line line' : Text} {c : Command} {range : LineRange}

/-- Once the lines of a command are known, its suffixes are brought onto them. -/
theorem outcome_build_of_resolve (hParse : Command.parse line = .ok c)
    (hRange : (resolve sources c).outcome = .ok range) :
    (build sources line).outcome =
      c.suffixes.read.outcome.map (Instructions.onto range) >>= fun wanted =>
        (CodeBlock.read sources.disk (c.sourcePath sources.root) range).map
          (assemble sources c wanted) := by
  rw [outcome_build_of_parse sources hParse, outcome_fetch, hRange]
  cases c.suffixes.read.outcome with
  | error fault => rfl
  | ok wanted =>
    change (CodeBlock.read _ _ range).map _ = (CodeBlock.read _ _ range).map _
    cases hBlock : CodeBlock.read sources.disk (c.sourcePath sources.root) range with
    | error fault => rfl
    | ok block =>
      obtain rfl := range_of_read hBlock
      simp only [Except.map, assemble, Instructions.onto, Highlights.onto_onto, Edits.onto_onto]

theorem build_renumbered {head : CommandHead} {tail' : Text}
    (hHead : CommandHead.read line = .ok head)
    (hHead' : CommandHead.read line' = .ok { head with suffixes := tail' })
    (hParse : Command.parse line = .ok c) (hRange : (resolve sources c).outcome = .ok range)
    (hTail : Suffixes.RenumbersText (range.first - 1) head.suffixes tail') :
    (build sources line').outcome = (build sources line).outcome := by
  obtain ⟨hName, hSplit, hAddress⟩ := Command.parts_of_parse hHead hParse
  obtain ⟨s', hSplit', hAgrees⟩ :=
    Suffixes.splitFrom_renumbered hTail (Suffixes.Agrees.refl range {}) hSplit tail'
  have hParse' : Command.parse line' = .ok { c with suffixes := s' } := by
    have hAddress' := Command.readAddress_of_ok hAddress line' tail'
    rw [Command.parse_of_parts hHead' hSplit' hAddress', hName]
  have hRange' : (resolve sources { c with suffixes := s' }).outcome = .ok range := hRange
  rw [outcome_build_of_resolve hParse hRange, outcome_build_of_resolve hParse' hRange',
    ← hAgrees.outcome_read]
  rfl

end Insertion

/-- Lines that are replaced by the same, or that both stay because the same is not found. -/
theorem Sources.outcome_run_of_build {sources : Sources} {line line' : Text} {kind : CommandKind}
    (hKind : CommandKind.ofLine? line = some kind) (hKind' : CommandKind.ofLine? line' = some kind)
    (hBuild : (Insertion.build sources line').outcome = (Insertion.build sources line).outcome)
    (recorder : Recorder) :
    (sources.run recorder line').outcome = (sources.run recorder line).outcome ∨
      ∃ fault, (Insertion.build sources line).outcome = .error fault ∧ fault.kind = .notFound ∧
        (sources.run recorder line).outcome = .ok line ∧
        (sources.run recorder line').outcome = .ok line' := by
  rw [outcome_run sources hKind, outcome_run sources hKind', hBuild]
  cases (Insertion.build sources line).outcome with
  | ok insertion => exact .inl rfl
  | error fault =>
    by_cases hFound : fault.kind = .notFound
    · exact .inr ⟨fault, rfl, hFound, if_pos hFound, if_pos hFound⟩
    · exact .inl ((if_neg hFound).trans (if_neg hFound).symm)

/-! ## Relative selectors, resolved and rewritten -/

/-- Selectors that count from a block can be brought onto its lines, whatever items they name: each
item keeps its place, its kind and its columns, and names the lines that it named, counted from the
first of the block; nothing moves it again. So a command asks for the same, and fails alike, if any
of its relative selectors is written as an absolute one with `range.first - 1` added to each of its
line numbers. -/
theorem relative_eq_renumbered :
    (∀ (items : List Item) (base : LineRange), ∃ items',
      Highlights.toAbsolute ⟨items, .relative⟩ (some base) = .ok ⟨items', .absolute⟩ ∧
      List.Forall₂ (Item.LiesOn base) items items' ∧
      ∀ base', Highlights.toAbsolute ⟨items', .absolute⟩ base' = .ok ⟨items', .absolute⟩) ∧
    (∀ (edits : List Edit) (base : LineRange), ∃ edits',
      Edits.toAbsolute ⟨edits, .relative⟩ (some base) = .ok ⟨edits', .absolute⟩ ∧
      List.Forall₂ (fun edit edit' => edit'.kind = edit.kind ∧ edit.item.LiesOn base edit'.item)
        edits edits' ∧
      ∀ base', Edits.toAbsolute ⟨edits', .absolute⟩ base' = .ok ⟨edits', .absolute⟩) ∧
    ∀ (sources : Sources) (line line' tail' : Text) (head : CommandHead) (c : Command)
      (range : LineRange), CommandHead.read line = .ok head →
      CommandHead.read line' = .ok { head with suffixes := tail' } →
      Command.parse line = .ok c → (Insertion.resolve sources c).outcome = .ok range →
      Suffixes.RenumbersText (range.first - 1) head.suffixes tail' →
      (Insertion.build sources line').outcome = (Insertion.build sources line).outcome ∧
      ∀ recorder, (sources.run recorder line').outcome = (sources.run recorder line).outcome ∨
        ∃ fault, (Insertion.build sources line).outcome = .error fault ∧ fault.kind = .notFound ∧
          (sources.run recorder line).outcome = .ok line ∧
          (sources.run recorder line').outcome = .ok line' := by
  refine ⟨fun items base => ?_, fun edits base => ?_, ?_⟩
  · refine ⟨items.map (Item.shift (base.first - 1)), Highlights.toAbsolute_onto _ base, ?_,
      Highlights.toAbsolute_absolute rfl⟩
    rw [List.forall₂_map_right_iff, List.forall₂_same]
    exact fun item _ => item.liesOn_shift base
  · refine ⟨edits.map (Edit.shift (base.first - 1)), Edits.toAbsolute_onto _ base, ?_,
      Edits.toAbsolute_absolute rfl⟩
    rw [List.forall₂_map_right_iff, List.forall₂_same]
    exact fun edit _ => ⟨rfl, edit.item.liesOn_shift base⟩
  · intro sources line line' tail' head c range hHead hHead' hParse hRange hTail
    have hBuild := Insertion.build_renumbered hHead hHead' hParse hRange hTail
    have hKind := CommandKind.ofLine?_of_read hHead
    have hKind' := CommandKind.ofLine?_of_read hHead'
    exact ⟨hBuild, Sources.outcome_run_of_build hKind hKind' hBuild⟩

/-- A command for the second and the third line of a file: a column of its first line is marked, its
second line is hidden. -/
def relativeCommand : Text := "insert_code(f:2-3)r\x7b1:2-2\x7dr<h 02>".toList

/-- The same by the lines of the file. -/
def absoluteCommand : Text := "insert_code(f:2-3)\x7b2:2-2\x7d<h3>".toList

theorem renumbersText_relativeCommand :
    Suffixes.RenumbersText 1 "r\x7b1:2-2\x7dr<h 02>".toList "\x7b2:2-2\x7d<h3>".toList := by
  have hColumns : RenumbersBlock 1 "1:2-2".toList "2:2-2".toList :=
    @RenumbersBlock.columns 1 ['1'] ['2'] ⟨1, spells_iff.mpr ⟨[1], by decide, rfl⟩,
      spells_iff.mpr ⟨[2], by decide, rfl⟩⟩ "2-2".toList
  have hHidden : RenumbersEdit 1 "h 02".toList "h3".toList :=
    @RenumbersEdit.lettered 1 [] " 02".toList ['3'] rfl .hide (.line ⟨2,
      spells_iff.mpr ⟨[0, 2], by decide, rfl⟩, spells_iff.mpr ⟨[3], by decide, rfl⟩⟩)
  have hBody {R : Text → Text → Prop} {t t' : Text} (hComma : splitBlocks 0 [] t = [t])
      (hPiece : R t t') : RenumbersBody R t t' := by
    simpa [Text.join] using RenumbersBody.outer (outerPieces_iff.mpr hComma) (.cons hPiece .nil)
  have hBraces : Suffixes.RenumbersPiece 1 ⟨.brace, ⟨"1:2-2".toList, .relative⟩⟩
      ⟨.brace, ⟨"2:2-2".toList, .absolute⟩⟩ :=
    .highlights (h := ⟨[.columns ⟨1, 2, 2, by decide, by decide, by decide⟩], .relative⟩)
      (by decide +kernel) (hBody rfl hColumns) (not_hasLongRun_of_length (by decide))
  have hAngles : Suffixes.RenumbersPiece 1 ⟨.angle, ⟨"h 02".toList, .relative⟩⟩
      ⟨.angle, ⟨"h3".toList, .absolute⟩⟩ :=
    .edits (e := ⟨[⟨.line ⟨2, by decide⟩, .hide⟩], .relative⟩)
      (by decide +kernel) (hBody rfl hHidden) (not_hasLongRun_of_length (by decide))
  have hClosed {bracket : Bracket} {body : Text} (hBracket : bracket ≠ .square)
      (hBalanced : Suffixes.Balanced bracket 0 body) :
      Suffixes.Piece.IsClosed ⟨bracket, ⟨body, .relative⟩⟩ :=
    ⟨hBalanced, fun hSquare => absurd hSquare hBracket⟩
  exact @Suffixes.RenumbersText.cons 1 [] _ _ _ _ rfl
    (hClosed (by decide) (by simp [Suffixes.Balanced, Bracket.opener, Bracket.closer])) hBraces
    (@Suffixes.RenumbersText.cons 1 [] _ _ _ _ rfl
      (hClosed (by decide) (by simp [Suffixes.Balanced, Bracket.opener, Bracket.closer])) hAngles
      (@Suffixes.RenumbersText.nil 1 [] rfl))

/-- What is rendered does not tell in which of the two ways it was asked for. -/
theorem relative_eq_renumbered_bothSuffixes :
    ∀ recorder, ((sourcesWith "ab\ncd\nef\n".toList).run recorder absoluteCommand).outcome =
      ((sourcesWith "ab\ncd\nef\n".toList).run recorder relativeCommand).outcome := by
  have hHead : CommandHead.read relativeCommand =
      .ok ⟨.direct, ['f'], "2-3".toList, "r\x7b1:2-2\x7dr<h 02>".toList⟩ := by decide +kernel
  have hHead' : CommandHead.read absoluteCommand =
      .ok ⟨.direct, ['f'], "2-3".toList, "\x7b2:2-2\x7d<h3>".toList⟩ := by decide +kernel
  have hParse : Command.parse relativeCommand =
      .ok ⟨['f'], .lines ⟨2, 3, by decide, by decide⟩,
        ⟨some ⟨"1:2-2".toList, .relative⟩, some ⟨"h 02".toList, .relative⟩, none⟩⟩ := by
    decide +kernel
  obtain ⟨-, hRuns⟩ := relative_eq_renumbered.2.2 (sourcesWith "ab\ncd\nef\n".toList)
    relativeCommand absoluteCommand _ _ _ _ hHead hHead' hParse rfl renumbersText_relativeCommand
  have hFound : (Insertion.build (sourcesWith "ab\ncd\nef\n".toList)
      relativeCommand).outcome.isOk = true := by decide +kernel
  intro recorder
  rcases hRuns recorder with hSame | ⟨fault, hFault, -⟩
  · exact hSame
  · rw [hFault] at hFound
    cases hFound

end Excerpt
