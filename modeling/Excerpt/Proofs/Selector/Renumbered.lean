import Excerpt.Proofs.Render.Shift
import Excerpt.Proofs.Selector.Letters

/-!
# Bodies with higher line numbers

In a body, `k` is added to each line number, and all else is written as before: columns, letters,
commas and braces. If the body is read, the new one is read too, unless a number in it has become too
long, and it names the same items `k` lines further down.

* `RenumbersBlock.readBlock_eq`, `RenumbersEdit.readEdit_eq`: one piece.
* `RenumbersBody.readHighlights_eq`, `RenumbersBody.readEdits_eq`: bodies.
* `RenumbersBody.balanced`: brackets of all kinds stay balanced.
* `exists_renumbersBody_of_readHighlights`, `exists_renumbersBody_of_readEdits`: every body that is
  read can be written so.
-/

namespace Excerpt

/-! ## Numbers, pieces and bodies -/

/-- The second text spells a number that is higher by `k` than that of the first. -/
def Renumbers (k : Nat) (t t' : Text) : Prop := ∃ n, Spells t n ∧ Spells t' (n + k)

/-- The second block is the first one with `k` added to its line numbers. -/
inductive RenumbersBlock (k : Nat) : Text → Text → Prop
  | line {t t' : Text} (hLine : Renumbers k t t') : RenumbersBlock k t t'
  | range {first first' last last' : Text} (hFirst : Renumbers k first first')
      (hLast : Renumbers k last last') :
      RenumbersBlock k (first ++ '-' :: last) (first' ++ '-' :: last')
  | columns {t t' : Text} (hLine : Renumbers k t t') (columns : Text) :
      RenumbersBlock k (t ++ ':' :: columns) (t' ++ ':' :: columns)

/-- The second piece is the first one with `k` added to the line numbers of its block. -/
inductive RenumbersEdit (k : Nat) : Text → Text → Prop
  | lettered {gap t t' : Text} (hGap : gap.isBlank = true) (kind : EditKind)
      (hBlock : RenumbersBlock k t t') :
      RenumbersEdit k (gap ++ kind.letter :: t) (gap ++ kind.letter :: t')
  | plain {t t' : Text} (hBlock : RenumbersBlock k t t') : RenumbersEdit k t t'

/-- The second body is the first one with other numbers in each of its pieces. -/
inductive RenumbersBody (R : Text → Text → Prop) : Text → Text → Prop
  | blank {body : Text} (hBlank : body.isBlank = true) : RenumbersBody R body body
  | outer {body : Text} {pieces pieces' : List Text} (hPieces : OuterPieces body pieces)
      (hNumbers : List.Forall₂ R pieces pieces') :
      RenumbersBody R body (Text.join [','] pieces')

/-- Whether two texts that are not blank differ in their fronts only. -/
structure Text.Rewrites (t t' : Text) : Prop where
  differInFront : t.DifferInFront t'
  isBlank_old : t.isBlank = false
  isBlank_new : t'.isBlank = false

variable {k : Nat} {t t' : Text} {items : List Item}

/-! ## Pieces are rewritten -/

theorem Text.isBare_singleton {c : Char} (hComma : c ≠ ',')
    (hBracket : ∀ bracket : Bracket, c ≠ bracket.opener ∧ c ≠ bracket.closer) : IsBare [c] := by
  simpa [IsBare] using ⟨hComma, hBracket⟩

theorem RenumbersBlock.rewrites (h : RenumbersBlock k t t') : t.Rewrites t' := by
  have hNil := Text.isBare_nil
  cases h with
  | line hLine =>
    obtain ⟨n, hOld, hNew⟩ := hLine
    refine ⟨⟨t, t', [], Text.isBare_of_spells hOld, Text.isBare_of_spells hNew, ?_, ?_⟩,
      hOld.isBlank_eq_false, hNew.isBlank_eq_false⟩
    · rw [List.append_nil]
    · rw [List.append_nil]
  | @range first first' last last' hFirst hLast =>
    obtain ⟨a, hFirst, hFirst'⟩ := hFirst
    obtain ⟨b, hLast, hLast'⟩ := hLast
    have hDash : Text.IsBare ['-'] :=
      Text.isBare_singleton (by decide) fun bracket => by cases bracket <;> decide
    have hBare {x y : Text} {m n : Nat} (hx : Spells x m) (hy : Spells y n) :
        Text.IsBare (x ++ '-' :: y) :=
      Text.isBare_append (Text.isBare_of_spells hx)
        (Text.isBare_append hDash (Text.isBare_of_spells hy))
    refine ⟨⟨_, _, [], hBare hFirst hLast, hBare hFirst' hLast', ?_, ?_⟩, ?_, ?_⟩
    · rw [List.append_nil]
    · rw [List.append_nil]
    · simp [Text.isBlank, isBlank]
    · simp [Text.isBlank, isBlank]
  | columns hLine columns =>
    obtain ⟨n, hOld, hNew⟩ := hLine
    have hDiffer : Text.DifferInFront _ _ :=
      ⟨_, _, ':' :: columns, Text.isBare_of_spells hOld, Text.isBare_of_spells hNew, rfl, rfl⟩
    refine ⟨hDiffer, ?_, ?_⟩
    · simp [Text.isBlank, isBlank]
    · simp [Text.isBlank, isBlank]

theorem RenumbersEdit.rewrites (h : RenumbersEdit k t t') : t.Rewrites t' := by
  cases h with
  | @lettered gap t t' hGap kind hBlock =>
    have hFront : Text.IsBare (gap ++ [kind.letter]) :=
      Text.isBare_append (Text.isBare_of_isBlank hGap) kind.isBare_letter
    have hDiffer := hBlock.rewrites.differInFront.behind hFront
    have hBlank (rest : Text) : Text.isBlank (gap ++ kind.letter :: rest) = false := by
      have hLetter : isBlank kind.letter = false := (isMark_letter kind).1
      simp [Text.isBlank, hLetter]
    refine ⟨?_, hBlank t, hBlank t'⟩
    simpa only [List.append_assoc, List.singleton_append] using hDiffer
  | plain hBlock => exact hBlock.rewrites

/-! ## Pieces are read -/

theorem readColumns_add {line : Nat} {span : Text} {item : Item} (k : Nat)
    (h : readColumns line span = .ok item) : readColumns (line + k) span = .ok (item.shift k) := by
  rw [readColumns_eq] at h ⊢
  obtain ⟨ends, hSpan, hItem⟩ := bind_eq_ok_iff.mp h
  obtain ⟨c, hc, rfl⟩ := map_eq_ok_iff.mp hItem
  obtain ⟨hLine, hFirst, hLast⟩ := CharRange.of_eq_ok_iff.mp hc
  have hMoved : CharRange.of (line + k : Nat) ends.1 ends.2 = .ok (c.shift k) :=
    CharRange.of_eq_ok_iff.mpr ⟨by simp [CharRange.shift, ← hLine], hFirst, hLast⟩
  exact bind_eq_ok_iff.mpr ⟨ends, hSpan, map_eq_ok_iff.mpr ⟨c.shift k, hMoved, rfl⟩⟩

namespace RenumbersBlock

theorem readBlock_eq (h : RenumbersBlock k t t') (hShort : ¬ t'.HasLongRun)
    (hRead : readBlock t = .ok items) : readBlock t' = .ok (items.map (Item.shift k)) := by
  have hOldShort := not_hasLongRun_of_readBlock hRead
  cases h with
  | line hLine =>
    obtain ⟨n, hOld, hNew⟩ := hLine
    rw [readBlock_of_spells hOldShort hOld] at hRead
    obtain ⟨l, hl, rfl⟩ := map_eq_ok_iff.mp hRead
    obtain rfl : l.line = n := Int.natCast_inj.mp (LineNumber.of_eq_ok_iff.mp hl)
    rw [readBlock_of_spells hShort hNew]
    exact map_eq_ok_iff.mpr ⟨⟨l.line + k, _⟩, LineNumber.of_eq_ok_iff.mpr rfl, rfl⟩
  | range hFirst hLast =>
    obtain ⟨a, hFirst, hFirst'⟩ := hFirst
    obtain ⟨b, hLast, hLast'⟩ := hLast
    rw [readBlock_of_span hOldShort hFirst hLast] at hRead
    obtain ⟨r, hr, rfl⟩ := map_eq_ok_iff.mp hRead
    obtain ⟨ha, hb⟩ := LineRange.of_eq_ok_iff.mp hr
    obtain rfl : r.first = a := Int.natCast_inj.mp ha
    obtain rfl : r.last = b := Int.natCast_inj.mp hb
    rw [readBlock_of_span hShort hFirst' hLast']
    exact map_eq_ok_iff.mpr ⟨r.shift k, LineRange.of_eq_ok_iff.mpr ⟨rfl, rfl⟩, rfl⟩
  | columns hLine columns =>
    obtain ⟨n, hOld, hNew⟩ := hLine
    rw [readBlock_of_columns hOldShort hOld] at hRead
    rw [readBlock_of_columns hShort hNew]
    refine mapM_of_forall₂ (List.forall₂_same.mpr fun span _ item hItem => ?_) hRead
    exact readColumns_add k hItem

/-- A block begins with a number, and not with the letter of an edit. -/
theorem not_isLettered (h : RenumbersBlock k t t') : ¬ IsLettered t ∧ ¬ IsLettered t' := by
  cases h with
  | line hLine =>
    obtain ⟨n, hOld, hNew⟩ := hLine
    have hAlone := not_isLettered_of_spells hOld []
    have hAlone' := not_isLettered_of_spells hNew []
    rw [List.append_nil] at hAlone hAlone'
    exact ⟨hAlone, hAlone'⟩
  | range hFirst hLast =>
    obtain ⟨a, hOld, hNew⟩ := hFirst
    exact ⟨not_isLettered_of_spells hOld _, not_isLettered_of_spells hNew _⟩
  | columns hLine columns =>
    obtain ⟨n, hOld, hNew⟩ := hLine
    exact ⟨not_isLettered_of_spells hOld _, not_isLettered_of_spells hNew _⟩

theorem readBlock_trim_eq (h : RenumbersBlock k t t') (hShort : ¬ t'.HasLongRun)
    (hRead : readBlock (Text.trim t) = .ok items) :
    readBlock (Text.trim t') = .ok (items.map (Item.shift k)) := by
  rw [readBlock_trim_eq_ok_iff] at hRead ⊢
  exact h.readBlock_eq hShort hRead

end RenumbersBlock

theorem RenumbersEdit.readEdit_eq {edits : List Edit} (h : RenumbersEdit k t t')
    (hShort : ¬ t'.HasLongRun) (hRead : (readEdit (Text.trim t)).outcome = .ok edits) :
    (readEdit (Text.trim t')).outcome = .ok (edits.map (Edit.shift k)) := by
  have hMoved (kind : EditKind) (items : List Item) :
      (items.map (Item.shift k)).map (Edit.mk · kind) =
        (items.map (Edit.mk · kind)).map (Edit.shift k) := by
    rw [List.map_map, List.map_map]
    rfl
  rw [outcome_readEdit] at hRead ⊢
  cases h with
  | @lettered gap t t' hGap kind hBlock =>
    rw [editOf?_lettered hGap] at hRead ⊢
    obtain ⟨items, hItems, rfl⟩ := map_eq_ok_iff.mp hRead
    have hInside := not_hasLongRun_inside hShort (Text.infix_behind gap kind.letter t')
    have hNew := hBlock.readBlock_trim_eq hInside hItems
    exact map_eq_ok_iff.mpr ⟨_, hNew, hMoved kind items⟩
  | plain hBlock =>
    obtain ⟨hPlain, hPlain'⟩ := hBlock.not_isLettered
    rw [editOf?_of_plain hPlain] at hRead
    rw [editOf?_of_plain hPlain']
    obtain ⟨items, hItems, rfl⟩ := map_eq_ok_iff.mp hRead
    exact map_eq_ok_iff.mpr ⟨_, hBlock.readBlock_trim_eq hShort hItems, hMoved .hide items⟩

/-! ## Bodies -/

theorem OuterPieces.join_eq {body : Text} {pieces : List Text} (h : OuterPieces body pieces) :
    Text.join [','] pieces = body := by
  rw [← h.splitBlocks_eq]
  exact join_splitBlocks 0 [] body

namespace RenumbersBody

variable {R : Text → Text → Prop} {body body' : Text} {mode mode' : Addressing}

/-- The pieces of both bodies, if no number of the new one is too long to be read. -/
theorem exists_pieces (hR : ∀ t t', R t t' → t.Rewrites t') (h : RenumbersBody R body body')
    (hShort : ¬ body'.HasLongRun) :
    ∃ pieces pieces', BodyPieces body pieces ∧ BodyPieces body' pieces' ∧
      List.Forall₂ (fun t t' => ¬ t'.HasLongRun ∧ R t t') pieces pieces' := by
  cases h with
  | blank hBlank => exact ⟨[], [], .blank hBlank, .blank hBlank, .nil⟩
  | @outer pieces pieces' hPieces hNumbers =>
    have hRewrites := hNumbers.imp hR
    have hOld : ∀ piece ∈ pieces, Text.isBlank piece = false := by
      intro piece hMem
      obtain ⟨piece', -, hPiece⟩ := exists_of_forall₂ hRewrites hMem
      exact hPiece.isBlank_old
    have hNew : ∀ piece' ∈ pieces', Text.isBlank piece' = false := by
      intro piece' hMem
      obtain ⟨piece, -, hPiece⟩ := exists_of_forall₂ hRewrites.flip hMem
      exact hPiece.isBlank_new
    have hBody := BodyPieces.outer (hPieces.isBlank_eq_false hOld) hPieces
    have hBody' := hBody.rewritten (hRewrites.imp fun _ _ hPiece => hPiece.differInFront) hNew
    have hShorts : ∀ piece' ∈ pieces', ¬ Text.HasLongRun piece' := by
      intro piece' hMem
      exact not_hasLongRun_inside hShort (hBody'.infix_of_mem hMem)
    have hBoth := (List.forall₂_and_left _ _).mpr ⟨hShorts, hNumbers.flip⟩
    exact ⟨pieces, pieces', hBody, hBody', hBoth.flip⟩

theorem readHighlights_eq {h : Highlights} (hBody : RenumbersBody (RenumbersBlock k) body body')
    (hShort : ¬ body'.HasLongRun) (hRead : readHighlights (some ⟨body, mode⟩) = .ok h) :
    readHighlights (some ⟨body', mode'⟩) = .ok ⟨h.items.map (Item.shift k), mode'⟩ := by
  obtain ⟨pieces, pieces', hPieces, hPieces', hNumbers⟩ :=
    hBody.exists_pieces (fun _ _ hBlock => hBlock.rewrites) hShort
  rw [Excerpt.readHighlights_eq, hPieces.blocks_eq, List.mapM_map] at hRead
  rw [Excerpt.readHighlights_eq, hPieces'.blocks_eq, List.mapM_map]
  obtain ⟨parts, hParts, rfl⟩ := map_eq_ok_iff.mp hRead
  have hEach := hNumbers.imp fun t t' hPiece items (hItems : readBlock (Text.trim t) = .ok items) =>
    hPiece.2.readBlock_trim_eq hPiece.1 hItems
  have hParts' := mapM_of_forall₂ hEach hParts
  refine map_eq_ok_iff.mpr ⟨_, hParts', ?_⟩
  rw [List.map_flatten]

theorem readEdits_eq {e : Edits} (hBody : RenumbersBody (RenumbersEdit k) body body')
    (hShort : ¬ body'.HasLongRun) (hRead : (readEdits (some ⟨body, mode⟩)).outcome = .ok e) :
    (readEdits (some ⟨body', mode'⟩)).outcome = .ok ⟨e.items.map (Edit.shift k), mode'⟩ := by
  obtain ⟨pieces, pieces', hPieces, hPieces', hNumbers⟩ :=
    hBody.exists_pieces (fun _ _ hEdit => hEdit.rewrites) hShort
  rw [Excerpt.readEdits_eq hPieces, Journal.map_eq, Journal.outcome_mapM] at hRead
  rw [Excerpt.readEdits_eq hPieces', Journal.map_eq, Journal.outcome_mapM]
  obtain ⟨parts, hParts, rfl⟩ := map_eq_ok_iff.mp hRead
  have hEach := hNumbers.imp fun t t' hPiece edits
      (hEdits : (readEdit (Text.trim t)).outcome = .ok edits) =>
    hPiece.2.readEdit_eq hPiece.1 hEdits
  have hParts' := mapM_of_forall₂ hEach hParts
  refine map_eq_ok_iff.mpr ⟨_, hParts', ?_⟩
  rw [List.map_flatten]

end RenumbersBody

/-! ## Brackets -/

/-- The brackets of one kind in a text. -/
def Text.bracketsOf (b : Bracket) (t : Text) : Text :=
  t.filter fun c => c = b.opener ∨ c = b.closer

theorem Suffixes.balanced_bracketsOf_iff {b : Bracket} {depth : Nat} {t : Text} :
    Balanced b depth (t.bracketsOf b) ↔ Balanced b depth t := by
  unfold Text.bracketsOf
  induction t generalizing depth with
  | nil => rfl
  | cons c rest ih =>
    by_cases hOpen : c = b.opener
    · rw [List.filter_cons_of_pos (by simp [hOpen])]
      simp only [Balanced, if_pos hOpen, ih]
    · by_cases hClose : c = b.closer
      · rw [List.filter_cons_of_pos (by simp [hClose])]
        simp only [Balanced, if_neg hOpen, if_pos hClose, ih]
      · rw [List.filter_cons_of_neg (by simp [hOpen, hClose]), ih]
        simp only [Balanced, if_neg hOpen, if_neg hClose]

theorem Text.bracketsOf_of_isBare (h : t.IsBare) (b : Bracket) : t.bracketsOf b = [] := by
  refine List.filter_eq_nil_iff.mpr fun c hc => ?_
  obtain ⟨hOpen, hClose⟩ := (h c hc).2 b
  simp [hOpen, hClose]

theorem Text.DifferInFront.bracketsOf_eq (h : t.DifferInFront t') (b : Bracket) :
    t.bracketsOf b = t'.bracketsOf b := by
  obtain ⟨front, front', rest, hFront, hFront', rfl, rfl⟩ := h
  have hAppend (u : Text) (hu : u.IsBare) : (u ++ rest).bracketsOf b = rest.bracketsOf b := by
    rw [bracketsOf, List.filter_append, ← bracketsOf, bracketsOf_of_isBare hu, List.nil_append]
    rfl
  rw [hAppend front hFront, hAppend front' hFront']

theorem Text.bracketsOf_join (b : Bracket) (pieces : List Text) :
    Text.bracketsOf b (Text.join [','] pieces) = (pieces.map (Text.bracketsOf b)).flatten := by
  have hComma : Text.bracketsOf b [','] = [] := by cases b <;> decide
  induction pieces with
  | nil => rfl
  | cons first rest ih =>
    cases rest with
    | nil => simp [Text.join]
    | cons second rest =>
      rw [Text.join_cons_cons, List.map_cons, List.flatten_cons, ← ih]
      unfold Text.bracketsOf at hComma ⊢
      rw [List.filter_append, List.filter_append, hComma, List.append_nil]

/-- The new body is balanced wherever the old one is. -/
theorem RenumbersBody.balanced {R : Text → Text → Prop} {body body' : Text}
    (hR : ∀ t t', R t t' → t.Rewrites t') (h : RenumbersBody R body body') {b : Bracket}
    {depth : Nat} (hBalanced : Suffixes.Balanced b depth body) :
    Suffixes.Balanced b depth body' := by
  cases h with
  | blank _ => exact hBalanced
  | @outer pieces pieces' hPieces hNumbers =>
    have hEach := hNumbers.imp fun t t' hPiece => (hR t t' hPiece).differInFront.bracketsOf_eq b
    have hMap : pieces.map (Text.bracketsOf b) = pieces'.map (Text.bracketsOf b) := by
      rw [← List.forall₂_eq_eq_eq, List.forall₂_map_left_iff, List.forall₂_map_right_iff]
      exact hEach
    rw [← Suffixes.balanced_bracketsOf_iff, Text.bracketsOf_join, ← hMap, ← Text.bracketsOf_join,
      hPieces.join_eq, Suffixes.balanced_bracketsOf_iff]
    exact hBalanced

/-! ## Every body can be written so -/

theorem exists_renumbers {n : Nat} (h : Spells t n) (k : Nat) : ∃ t', Renumbers k t t' :=
  ⟨Numeral.ofNat (n + k), n, h, Item.spells_ofNat (n + k)⟩

theorem BlockText.exists_renumbersBlock {Gap : Text → Prop} (h : BlockText Gap t items) (k : Nat) :
    ∃ t', RenumbersBlock k t t' := by
  cases h with
  | line hLine =>
    obtain ⟨t', hNumber⟩ := exists_renumbers hLine k
    exact ⟨t', .line hNumber⟩
  | range hFirst hLast =>
    obtain ⟨first', hFirst'⟩ := exists_renumbers hFirst k
    obtain ⟨last', hLast'⟩ := exists_renumbers hLast k
    exact ⟨_, .range hFirst' hLast'⟩
  | columns hLine hSpans =>
    obtain ⟨t', hNumber⟩ := exists_renumbers hLine k
    exact ⟨_, .columns hNumber _⟩
  | braced hLine hGap hSpans hAfter =>
    obtain ⟨t', hNumber⟩ := exists_renumbers hLine k
    exact ⟨_, .columns hNumber _⟩

theorem exists_renumbersBlock_of_readBlock (h : readBlock (Text.trim t) = .ok items) (k : Nat) :
    ∃ t', RenumbersBlock k t t' := by
  obtain ⟨hText, -⟩ := readBlock_eq_ok_iff_blockText.mp (readBlock_trim_eq_ok_iff.mp h)
  exact hText.exists_renumbersBlock k

theorem exists_renumbersEdit_of_readEdit {edits : List Edit}
    (h : (readEdit (Text.trim t)).outcome = .ok edits) (k : Nat) : ∃ t', RenumbersEdit k t t' := by
  rw [outcome_readEdit] at h
  by_cases hLettered : IsLettered t
  · obtain ⟨kind, hKind⟩ := hLettered
    obtain ⟨block, hTrim⟩ := List.head?_eq_some_iff.mp hKind
    obtain ⟨gap, after, hGap, -, hText⟩ := Text.exists_trim t
    obtain rfl : t = gap ++ kind.letter :: (block ++ after) := by
      rw [hText, hTrim, List.append_assoc, List.cons_append]
    rw [editOf?_lettered hGap] at h
    obtain ⟨items, hItems, -⟩ := map_eq_ok_iff.mp h
    obtain ⟨block', hBlock⟩ := exists_renumbersBlock_of_readBlock hItems k
    exact ⟨_, .lettered hGap kind hBlock⟩
  · rw [editOf?_of_plain hLettered] at h
    obtain ⟨items, hItems, -⟩ := map_eq_ok_iff.mp h
    obtain ⟨t', hBlock⟩ := exists_renumbersBlock_of_readBlock hItems k
    exact ⟨t', .plain hBlock⟩

theorem BodyPieces.exists_renumbersBody {R : Text → Text → Prop} {body : Text} {pieces : List Text}
    (h : BodyPieces body pieces) (hPieces : ∀ piece ∈ pieces, ∃ piece', R piece piece') :
    ∃ body', RenumbersBody R body body' := by
  cases h with
  | blank hBlank => exact ⟨body, .blank hBlank⟩
  | outer _ hOuter =>
    obtain ⟨pieces', hNumbers⟩ := exists_forall₂ hPieces
    exact ⟨_, .outer hOuter hNumbers⟩

theorem exists_renumbersBody_of_readHighlights {body : Text} {mode : Addressing} {h : Highlights}
    (hRead : readHighlights (some ⟨body, mode⟩) = .ok h) (k : Nat) :
    ∃ body', RenumbersBody (RenumbersBlock k) body body' := by
  obtain ⟨pieces, hPieces, -⟩ := existsUnique_bodyPieces body
  rw [readHighlights_eq, hPieces.blocks_eq, List.mapM_map] at hRead
  obtain ⟨parts, hParts, -⟩ := map_eq_ok_iff.mp hRead
  refine hPieces.exists_renumbersBody fun piece hMem => ?_
  obtain ⟨items, -, hItems⟩ := ok_of_mapM hParts hMem
  exact exists_renumbersBlock_of_readBlock hItems k

theorem exists_renumbersBody_of_readEdits {body : Text} {mode : Addressing} {e : Edits}
    (hRead : (readEdits (some ⟨body, mode⟩)).outcome = .ok e) (k : Nat) :
    ∃ body', RenumbersBody (RenumbersEdit k) body body' := by
  obtain ⟨pieces, hPieces, -⟩ := existsUnique_bodyPieces body
  rw [readEdits_eq hPieces, Journal.map_eq, Journal.outcome_mapM] at hRead
  obtain ⟨parts, hParts, -⟩ := map_eq_ok_iff.mp hRead
  refine hPieces.exists_renumbersBody fun piece hMem => ?_
  obtain ⟨edits, -, hEdits⟩ := ok_of_mapM hParts hMem
  exact exists_renumbersEdit_of_readEdit hEdits k

end Excerpt
