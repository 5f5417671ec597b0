import Excerpt.Proofs.Selector.Runs

/-!
# Blocks of edits

A block of edits is a block with the letter of its kind in front of it, or without one, if its lines
are hidden. The edits of a body are those of its blocks, one block behind the other.

* `readEdit_of_editText`: a block of the grammar is read as its items, with the kind.
* `not_hasLongRun_of_readEdit`: what is read has no long run of digits.
* `readEdits_eq_ok_iff`: the edits of a body by its blocks.
* `firstMatch_of_blocks`: the edit that applies to a line, if one block names it and none before.
-/

namespace Excerpt

/-- The text is a block that makes an edit of each of the items. -/
inductive EditText (Gap : Text → Prop) : Text → EditKind → List Item → Prop
  | lettered {kind : EditKind} {t : Text} {items : List Item} (hBlock : BlockText Gap t items) :
      EditText Gap (kind.letter :: t) kind items
  | plain {t : Text} {items : List Item} (hBlock : BlockText Gap t items) :
      EditText Gap t .hide items

variable {t : Text} {kind : EditKind} {items : List Item}

theorem ofLetter?_eq_some_iff {c : Char} : EditKind.ofLetter? c = some kind ↔ kind.letter = c := by
  constructor
  · intro h
    unfold EditKind.ofLetter? at h
    split at h
    · cases h
      exact Eq.symm ‹_›
    · split at h
      · cases h
        exact Eq.symm ‹_›
      · split at h
        · cases h
          exact Eq.symm ‹_›
        · cases h
  · rintro rfl
    cases kind <;> rfl

theorem isMark_letter (kind : EditKind) : IsMark kind.letter := by
  cases kind <;> decide

/-- A block begins with a number. -/
theorem BlockText.exists_number {Gap : Text → Prop} (h : BlockText Gap t items) :
    ∃ number rest n, t = number ++ rest ∧ Spells number n := by
  cases h with
  | line hLine => exact ⟨t, [], _, (List.append_nil t).symm, hLine⟩
  | range hFirst hLast => exact ⟨_, _, _, rfl, hFirst⟩
  | columns hLine hSpans => exact ⟨_, _, _, rfl, hLine⟩
  | braced hLine hGap hSpans hAfter => exact ⟨_, _, _, rfl, hLine⟩

/-- A block without a letter is not taken for one with a letter. -/
theorem editOf?_of_blockText {Gap : Text → Prop} (h : BlockText Gap t items) :
    editOf? t = none := by
  obtain ⟨number, rest, n, rfl, hNumber⟩ := h.exists_number
  cases number with
  | nil => exact absurd hNumber.isBlank_eq_false (by decide)
  | cons c number =>
    rw [List.cons_append, editOf?, Option.map_eq_none_iff]
    cases hLetter : EditKind.ofLetter? c with
    | none => rfl
    | some kind =>
      obtain rfl := ofLetter?_eq_some_iff.mp hLetter
      exact absurd List.mem_cons_self (hNumber.not_mem (isMark_letter kind))

theorem readEdit_of_editText (hShort : ¬ t.HasLongRun) (h : EditText Blanks t kind items) :
    (readEdit t).outcome = .ok (items.map (Edit.mk · kind)) := by
  rw [outcome_readEdit]
  cases h with
  | @lettered kind t items hBlock =>
    have hInside := not_hasLongRun_inside hShort (List.suffix_cons kind.letter t).isInfix
    have hTrimmed := not_hasLongRun_inside hInside (Text.infix_of_trim t)
    have hRead := (readBlock_eq_ok_iff hTrimmed).mpr (hBlock.of_trim_eq (Text.trim_trim t).symm)
    have hEdit : editOf? (kind.letter :: t) = some (kind, Text.trim t) := by
      rw [editOf?, ofLetter?_eq_some_iff.mpr rfl]
      rfl
    rw [hEdit]
    dsimp only
    rw [hRead]
    rfl
  | plain hBlock =>
    rw [editOf?_of_blockText hBlock]
    dsimp only
    rw [(readBlock_eq_ok_iff hShort).mpr hBlock]
    rfl

theorem not_hasLongRun_of_readEdit {part : List Edit} (h : (readEdit t).outcome = .ok part) :
    ¬ t.HasLongRun := by
  rw [outcome_readEdit] at h
  cases hEdit : editOf? t with
  | none =>
    rw [hEdit] at h
    obtain ⟨items, hBlock, -⟩ := map_eq_ok_iff.mp h
    exact not_hasLongRun_of_readBlock hBlock
  | some edit =>
    rw [hEdit] at h
    obtain ⟨items, hBlock, -⟩ := map_eq_ok_iff.mp h
    cases t with
    | nil => cases hEdit
    | cons c rest =>
      obtain ⟨kind, hLetter, rfl⟩ := Option.map_eq_some_iff.mp hEdit
      obtain rfl := ofLetter?_eq_some_iff.mp hLetter
      have hRest := not_hasLongRun_of_readBlock hBlock
      rwa [hasLongRun_trim_iff, ← hasLongRun_cons_iff (isMark_letter kind).2] at hRest

/-! ## Bodies -/

variable {source : SelectorSource} {e : Edits}

theorem readEdits_eq_ok_iff : (readEdits (some source)).outcome = .ok e ↔
    ∃ parts, List.Forall₂ (fun block part => (readEdit block).outcome = .ok part)
      (blocks source.body) parts ∧ ⟨parts.flatten, source.mode⟩ = e := by
  unfold readEdits
  rw [Journal.outcome_bind, Journal.outcome_mapM, bind_eq_ok_iff]
  simp only [mapM_eq_ok_iff, Journal.outcome_pure, Except.ok.injEq]

/-- Edits of blocks that are all passed over stand before those of the block that is not. -/
theorem find?_flatten_of_blocks {parts : List (List Edit)} {before after : List Text}
    {block : Text} {applies : Edit → Bool} {edit : Edit} {edits : List Edit}
    (hParts : List.Forall₂ (fun block part => (readEdit block).outcome = .ok part)
      (before ++ block :: after) parts)
    (hBefore : ∀ other ∈ before, ∀ part, (readEdit other).outcome = .ok part →
      ∀ passed ∈ part, applies passed = false)
    (hBlock : (readEdit block).outcome = .ok (edit :: edits)) (hApplies : applies edit = true) :
    parts.flatten.find? applies = some edit := by
  induction before generalizing parts with
  | nil =>
    cases hParts with
    | cons hPart hRest =>
      obtain rfl := Except.ok.inj (hPart.symm.trans hBlock)
      rw [List.flatten_cons, List.cons_append, List.find?_cons_of_pos hApplies]
  | cons other before ih =>
    cases hParts with
    | cons hPart hRest =>
      have hPassed : ∀ passed ∈ _, applies passed = false :=
        hBefore other List.mem_cons_self _ hPart
      have hNone := List.find?_eq_none.mpr fun passed hMem =>
        Bool.not_eq_true _ ▸ hPassed passed hMem
      have hFound := ih hRest fun other hOther =>
        hBefore other (List.mem_cons_of_mem _ hOther)
      rw [List.flatten_cons, List.find?_append, hNone, hFound, Option.none_or]

/-- The edit that applies to a line, if one block of the body names it and none before it does. -/
theorem firstMatch_of_blocks {before after : List Text} {block : Text} {item : Item} {line : Int}
    (hRead : (readEdits (some source)).outcome = .ok e)
    (hBlocks : blocks source.body = before ++ block :: after)
    (hBefore : ∀ other ∈ before, ∀ part, (readEdit other).outcome = .ok part →
      ∀ passed ∈ part, passed.item.contains line = false)
    (hBlock : EditText Blanks block kind (item :: items)) (hLine : item.contains line = true) :
    e.firstMatch line = some ⟨item, kind⟩ := by
  obtain ⟨parts, hParts, rfl⟩ := readEdits_eq_ok_iff.mp hRead
  rw [hBlocks] at hParts
  obtain ⟨part, -, hPart⟩ := exists_of_forall₂ hParts (List.mem_append_cons_self : block ∈ _)
  have hShort := not_hasLongRun_of_readEdit hPart
  exact find?_flatten_of_blocks hParts hBefore (readEdit_of_editText hShort hBlock) hLine

end Excerpt
