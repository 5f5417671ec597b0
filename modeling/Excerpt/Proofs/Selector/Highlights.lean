import Excerpt.Proofs.Selector.Reading

/-!
# Reading highlights

The reader of highlights takes exactly the bodies of the grammar, and refuses every other body as
one that cannot be parsed. Items that are written one behind the other are read back.

* `join_splitBlocks`, `splitBlocks_join`: the commas outside of braces.
* `readBlocks_eq_ok_iff`, `readHighlights_eq_ok_iff`: the blocks of a body, and bodies.
* `Item.bodyText_textOf`: items are named by their text.
* `readHighlights_grammar`: what is read, what is refused, and what is read back.
* `readHighlights_gapBeforeBrace`: the one place where blanks have no number beside them.
-/

namespace Excerpt

variable {body : Text} {mode : Addressing} {items : List Item}

/-! ## Commas -/

theorem join_splitBlocks (depth : Int) (current t : Text) :
    Text.join [','] (splitBlocks depth current t) = current.reverse ++ t := by
  induction t generalizing depth current with
  | nil => simp [splitBlocks, Text.join]
  | cons c rest ih =>
    unfold splitBlocks
    split
    · rename_i hComma
      obtain ⟨second, others, hRest⟩ :=
        List.exists_cons_of_ne_nil (splitBlocks_ne_nil depth [] rest)
      have hJoin := ih depth []
      rw [hRest] at hJoin ⊢
      rw [Text.join_cons_cons, hJoin, hComma.1]
      simp
    · rw [ih]
      simp

theorem splitBlocks_append {before : Text} (h : ',' ∉ before) (depth : Int) (current after : Text) :
    splitBlocks depth current (before ++ after) =
      splitBlocks (before.foldl depthBehind depth) (before.reverse ++ current) after := by
  induction before generalizing depth current with
  | nil => rfl
  | cons c rest ih =>
    obtain ⟨hc, hRest⟩ := not_or.mp (fun hMem => h (List.mem_cons.mpr hMem))
    have hStep : ¬ (c = ',' ∧ depth = 0) := fun hComma => hc hComma.1.symm
    rw [List.cons_append, splitBlocks, if_neg hStep, ih hRest]
    simp

/-- Pieces without commas, and with braces that are closed again, are the blocks of what they are
joined to. -/
theorem splitBlocks_join {pieces : List Text} (hNe : pieces ≠ [])
    (hComma : ∀ piece ∈ pieces, ',' ∉ piece)
    (hDepth : ∀ piece ∈ pieces, List.foldl depthBehind 0 piece = 0) :
    splitBlocks 0 [] (Text.join [','] pieces) = pieces := by
  induction pieces with
  | nil => exact absurd rfl hNe
  | cons first rest ih =>
    have hFirst := splitBlocks_append (hComma first List.mem_cons_self) 0 []
    rw [hDepth first List.mem_cons_self, List.append_nil] at hFirst
    cases rest with
    | nil =>
      have hLast := hFirst []
      rw [List.append_nil] at hLast
      simpa [Text.join, splitBlocks] using hLast
    | cons second others =>
      have hRest := ih (by simp) (fun p hp => hComma p (List.mem_cons_of_mem _ hp))
        fun p hp => hDepth p (List.mem_cons_of_mem _ hp)
      rw [Text.join_cons_cons, List.append_assoc, hFirst, List.singleton_append, splitBlocks,
        if_pos ⟨rfl, rfl⟩, List.reverse_reverse, hRest]

/-! ## Bodies -/

theorem BlockText.isBlank_eq_false {Gap : Text → Prop} {t : Text} (h : BlockText Gap t items) :
    t.isBlank = false := by
  cases h with
  | line hLine => exact hLine.isBlank_eq_false
  | range hFirst hLast => simp [Text.isBlank, isBlank]
  | columns hLine hSpans => simp [Text.isBlank, isBlank]
  | braced hLine hGap hSpans hAfter => simp [Text.isBlank, isBlank]

theorem isBlank_of_separated {Gap : Text → Prop} {parts : List (List Item)}
    (h : Separated ',' (BlockText Gap) body parts) : body.isBlank = false := by
  cases h with
  | one hBlock => exact hBlock.isBlank_eq_false
  | more hBlock hRest => simp [Text.isBlank, isBlank]

theorem readBlocks_eq_ok_iff (h : ¬ body.HasLongRun) (hBlank : body.isBlank = false)
    {parts : List (List Item)} :
    (blocks body).mapM readBlock = .ok parts ↔ Separated ',' (BlockText Blanks) body parts := by
  have hBlocks : blocks body = (splitBlocks 0 [] body).map Text.trim := by
    unfold blocks
    rw [hBlank]
    rfl
  rw [mapM_eq_ok_iff_of_mem fun block hBlock items =>
    readBlock_eq_ok_iff (not_hasLongRun_inside h (infix_of_mem_blocks hBlock)), hBlocks,
    List.forall₂_map_left_iff]
  constructor
  · intro hRead
    refine separated_iff.mpr ⟨_, splitBlocks_ne_nil 0 [] body, join_splitBlocks 0 [] body, ?_⟩
    exact hRead.imp fun piece items hPiece => hPiece.of_trim_eq (Text.trim_trim piece)
  · intro hText
    obtain ⟨pieces, hNe, rfl, hPieces⟩ := separated_iff.mp hText
    have hComma : ∀ piece ∈ pieces, ',' ∉ piece := by
      intro piece hPiece
      obtain ⟨items, -, hBlock⟩ := exists_of_forall₂ hPieces hPiece
      exact hBlock.comma_not_mem
    have hDepth : ∀ piece ∈ pieces, List.foldl depthBehind 0 piece = 0 := by
      intro piece hPiece
      obtain ⟨items, -, hBlock⟩ := exists_of_forall₂ hPieces hPiece
      exact hBlock.depth 0
    rw [splitBlocks_join hNe hComma hDepth]
    exact hPieces.imp fun piece items hPiece => hPiece.of_trim_eq (Text.trim_trim piece).symm

theorem readHighlights_eq_ok_iff (h : ¬ body.HasLongRun) :
    readHighlights (some ⟨body, mode⟩) = .ok ⟨items, mode⟩ ↔ BodyText Blanks body items := by
  rw [readHighlights_eq, map_eq_ok_iff]
  constructor
  · rintro ⟨parts, hParts, hItems⟩
    cases hItems
    cases hBlank : body.isBlank with
    | true =>
      rw [blocks_of_isBlank hBlank] at hParts
      cases hParts
      exact .blank hBlank
    | false => exact .blocks ((readBlocks_eq_ok_iff h hBlank).mp hParts)
  · intro hText
    cases hText with
    | blank hBlank =>
      rw [blocks_of_isBlank hBlank]
      exact ⟨[], rfl, rfl⟩
    | @blocks parts hBlocks =>
      have hParts := (readBlocks_eq_ok_iff h (isBlank_of_separated hBlocks)).mpr hBlocks
      exact ⟨parts, hParts, rfl⟩

/-! ## Items in writing -/

namespace Item

/-- The block that names the item. -/
def text : Item → Text
  | .line n => Numeral.ofNat n.line
  | .range r => Numeral.ofNat r.first ++ '-' :: Numeral.ofNat r.last
  | .columns c =>
    Numeral.ofNat c.line ++ ':' :: (Numeral.ofNat c.first ++ '-' :: Numeral.ofNat c.last)

/-- The body that names the items. -/
def textOf (items : List Item) : Text := Text.join [','] (items.map text)

theorem spells_ofNat (n : Nat) : Spells (Numeral.ofNat n) n := by
  obtain ⟨digits, hDigits, hValue⟩ := Numeral.exists_digits_ofNat n
  exact ⟨[], Numeral.ofNat n, [], digits, rfl, rfl, by simp, hDigits, hValue⟩

theorem blockText_text (Gap : Text → Prop) (item : Item) : BlockText Gap item.text [item] := by
  cases item with
  | line n => exact .line (spells_ofNat n.line)
  | range r => exact .range (spells_ofNat r.first) (spells_ofNat r.last)
  | columns c =>
    have hSpan : ColumnsText c.line (Numeral.ofNat c.first ++ '-' :: Numeral.ofNat c.last)
        (.columns c) := .span rfl (spells_ofNat c.first) (spells_ofNat c.last)
    exact .columns (spells_ofNat c.line) (.one hSpan)

theorem bodyText_textOf (Gap : Text → Prop) (items : List Item) :
    BodyText Gap (textOf items) items := by
  cases items with
  | nil => exact .blank rfl
  | cons first rest =>
    have hBlocks : List.Forall₂ (BlockText Gap) ((first :: rest).map text)
        ((first :: rest).map ([·])) := by
      rw [List.forall₂_map_left_iff, List.forall₂_map_right_iff, List.forall₂_same]
      exact fun item _ => blockText_text Gap item
    have hBody := BodyText.blocks (separated_of_pieces (by simp) hBlocks)
    rwa [← List.flatMap_def, List.flatMap_singleton'] at hBody

end Item

/-! ## What is read, refused and read back -/

/-- Exactly the bodies of the grammar are read, with the items that it names; every other body is
refused as one that cannot be parsed. Items in writing are read back. -/
theorem readHighlights_grammar :
    (∀ (body : Text) (mode : Addressing), ¬ body.HasLongRun →
      (∀ items, readHighlights (some ⟨body, mode⟩) = .ok ⟨items, mode⟩ ↔
        BodyText Blanks body items) ∧
      ((∀ items, ¬ BodyText Blanks body items) →
        ∃ fault, readHighlights (some ⟨body, mode⟩) = .error fault ∧ fault.kind = .parse)) ∧
    ∀ (items : List Item) (mode : Addressing), ¬ (Item.textOf items).HasLongRun →
      readHighlights (some ⟨Item.textOf items, mode⟩) = .ok ⟨items, mode⟩ := by
  refine ⟨fun body mode hShort => ⟨fun items => readHighlights_eq_ok_iff hShort, ?_⟩, ?_⟩
  · intro hNone
    cases hRead : readHighlights (some ⟨body, mode⟩) with
    | ok highlights =>
      obtain ⟨items, mode'⟩ := highlights
      obtain rfl : mode' = mode := mode_of_readHighlights hRead
      exact absurd ((readHighlights_eq_ok_iff hShort).mp hRead) (hNone items)
    | error fault =>
      refine ⟨fault, rfl, ?_⟩
      rcases failsBy_readHighlights fault hRead with hParse | ⟨-, hLong⟩
      · exact hParse
      · exact absurd hLong hShort
  · intro items mode hShort
    exact (readHighlights_eq_ok_iff hShort).mpr (Item.bodyText_textOf Blanks items)

theorem readHighlights_grammar_spans :
    (¬ Text.HasLongRun "2: \x7b 3-13 | 17-17 \x7d , 4".toList ∧
      BodyText Blanks "2: \x7b 3-13 | 17-17 \x7d , 4".toList
        [.columns ⟨2, 3, 13, by decide, by decide, by decide⟩,
          .columns ⟨2, 17, 17, by decide, by decide, by decide⟩, .line ⟨4, by decide⟩]) ∧
    (¬ Text.HasLongRun "1:\x7b2-3,4".toList ∧
      (∀ items, ¬ BodyText Blanks "1:\x7b2-3,4".toList items) ∧
      ∃ fault, readHighlights (some ⟨"1:\x7b2-3,4".toList, .relative⟩) = .error fault ∧
        fault.kind = .parse) ∧
    (¬ Text.HasLongRun (Item.textOf [.range ⟨1, 2, by decide, by decide⟩, .line ⟨4, by decide⟩]) ∧
      readHighlights (some ⟨Item.textOf [.range ⟨1, 2, by decide, by decide⟩,
        .line ⟨4, by decide⟩], .absolute⟩) =
        .ok ⟨[.range ⟨1, 2, by decide, by decide⟩, .line ⟨4, by decide⟩], .absolute⟩) := by
  have hSpans : ¬ Text.HasLongRun "2: \x7b 3-13 | 17-17 \x7d , 4".toList :=
    not_hasLongRun_of_length (by decide)
  have hOpen : ¬ Text.HasLongRun "1:\x7b2-3,4".toList := not_hasLongRun_of_length (by decide)
  have hText : ¬ Text.HasLongRun
      (Item.textOf [.range ⟨1, 2, by decide, by decide⟩, .line ⟨4, by decide⟩]) :=
    not_hasLongRun_of_length (by decide)
  refine ⟨⟨hSpans, ?_⟩, ⟨hOpen, ?_⟩, hText, readHighlights_grammar.2 _ .absolute hText⟩
  · exact ((readHighlights_grammar.1 _ .absolute hSpans).1 _).mp (by decide +kernel)
  · have hNone : ∀ items, ¬ BodyText Blanks "1:\x7b2-3,4".toList items := by
      intro items hItems
      have hRead := ((readHighlights_grammar.1 _ .absolute hOpen).1 items).mpr hItems
      have hError : (readHighlights (some ⟨"1:\x7b2-3,4".toList, .absolute⟩)).isOk = false := by
        decide +kernel
      rw [hRead] at hError
      cases hError
    exact ⟨hNone, (readHighlights_grammar.1 _ .relative hOpen).2 hNone⟩

/-! ## Blanks in front of a brace -/

/-- If nothing may stand in front of a brace, a brace has a colon in front of it. -/
theorem colon_before_brace {t before after : Text} (h : BlockText (· = []) t items)
    (hText : t = before ++ '\x7b' :: after) (hBefore : '\x7b' ∉ before) :
    before.getLast? = some ':' := by
  have hMem : '\x7b' ∈ t := by simp [hText]
  cases h with
  | line hLine => exact absurd hMem (hLine.not_mem (by decide))
  | range hFirst hLast =>
    have hNotFirst : '\x7b' ∉ _ := hFirst.not_mem (by decide)
    have hNotLast : '\x7b' ∉ _ := hLast.not_mem (by decide)
    simp [hNotFirst, hNotLast] at hMem
  | columns hLine hSpans =>
    have hNotLine : '\x7b' ∉ _ := hLine.not_mem (by decide)
    have hNotSpans : '\x7b' ∉ _ := hSpans.not_mem (by decide)
    simp [hNotLine, hNotSpans] at hMem
  | @braced line number gap spans last items hLine hGap hSpans hLast =>
    subst hGap
    have hNotLine : '\x7b' ∉ number := hLine.not_mem (by decide)
    have hCut := Text.cut_append hBefore after
    rw [← hText] at hCut
    have hOther : Text.cut '\x7b' ((number ++ [':']) ++ '\x7b' :: (spans ++ '\x7d' :: last)) =
        some (number ++ [':'], spans ++ '\x7d' :: last) :=
      Text.cut_append (by simp [hNotLine]) _
    simp only [List.append_assoc, List.singleton_append, List.nil_append] at hOther hCut
    rw [hOther] at hCut
    cases hCut
    simp

/-- Blanks may stand between the colon and the brace, though there is no number beside them. -/
theorem readHighlights_gapBeforeBrace :
    ¬ Text.HasLongRun "1: \x7b2-3\x7d".toList ∧
    readHighlights (some ⟨"1: \x7b2-3\x7d".toList, .absolute⟩) =
      .ok ⟨[.columns ⟨1, 2, 3, by decide, by decide, by decide⟩], .absolute⟩ ∧
    ∀ items, ¬ BodyText (· = []) "1: \x7b2-3\x7d".toList items := by
  refine ⟨not_hasLongRun_of_length (by decide), by decide +kernel, ?_⟩
  intro items hText
  generalize hBody : "1: \x7b2-3\x7d".toList = body at hText
  cases hText with
  | blank hBlank =>
    rw [← hBody] at hBlank
    exact absurd hBlank (by decide)
  | blocks hBlocks =>
    cases hBlocks with
    | one hBlock =>
      have hParts : body = ['1', ':', ' '] ++ '\x7b' :: ['2', '-', '3', '\x7d'] := hBody.symm
      have hColon := colon_before_brace hBlock hParts (by decide)
      exact absurd hColon (by decide)
    | more hBlock hRest =>
      have hComma : ',' ∈ "1: \x7b2-3\x7d".toList := by simp [hBody]
      exact absurd hComma (by decide)

end Excerpt
