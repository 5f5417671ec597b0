import Excerpt.Proofs.Selector.Numbers
import Excerpt.Selector.Body

/-!
# The grammar of selectors

How the body of a selector is written, and the items that it names. A number is a numeral with
blanks around it. What may stand between the colon of a block and a brace is left open, as `Gap`.

* `separated_iff`: a list with separators, by its pieces.
* `Spells.of_trim_eq`, `ColumnsText.of_trim_eq`, `BlockText.of_trim_eq`: blanks around a number, a
  span or a block name nothing.
* `BlockText.comma_not_mem`, `BlockText.depth`: a block has no comma, and as many braces close in it
  as open.
-/

namespace Excerpt

/-! ## Lists with separators -/

/-- Pieces with separators between them, and what each piece stands for. -/
inductive Separated {β : Type} (separator : Char) (Piece : Text → β → Prop) :
    Text → List β → Prop
  | one {t : Text} {b : β} (hPiece : Piece t b) : Separated separator Piece t [b]
  | more {t rest : Text} {b : β} {bs : List β} (hPiece : Piece t b)
      (hRest : Separated separator Piece rest bs) :
      Separated separator Piece (t ++ separator :: rest) (b :: bs)

section Lists

variable {β : Type} {separator : Char} {Piece : Text → β → Prop} {t : Text} {bs : List β}

theorem separated_of_pieces {pieces : List Text} (hNe : pieces ≠ [])
    (h : List.Forall₂ Piece pieces bs) :
    Separated separator Piece (Text.join [separator] pieces) bs := by
  induction h with
  | nil => exact absurd rfl hNe
  | @cons first b rest bs hFirst hRest ih =>
    cases hRest with
    | nil => simpa [Text.join] using Separated.one hFirst
    | cons hSecond hRest =>
      have hMore := Separated.more hFirst (ih (by simp))
      rw [Text.join_cons_cons, List.append_assoc]
      exact hMore

theorem separated_iff :
    Separated separator Piece t bs ↔ ∃ pieces : List Text, pieces ≠ [] ∧
      Text.join [separator] pieces = t ∧ List.Forall₂ Piece pieces bs := by
  constructor
  · intro h
    induction h with
    | @one t b hPiece =>
      exact ⟨[t], by simp, by simp [Text.join], .cons hPiece .nil⟩
    | @more t rest b bs hPiece hRest ih =>
      obtain ⟨pieces, hNe, rfl, hPieces⟩ := ih
      refine ⟨t :: pieces, by simp, ?_, .cons hPiece hPieces⟩
      obtain ⟨second, others, rfl⟩ := List.exists_cons_of_ne_nil hNe
      rw [Text.join_cons_cons, List.append_assoc]
      rfl
  · rintro ⟨pieces, hNe, rfl, hPieces⟩
    exact separated_of_pieces hNe hPieces

theorem Separated.not_mem {c : Char} (hc : c ≠ separator)
    (hPiece : ∀ t b, Piece t b → c ∉ t) (h : Separated separator Piece t bs) : c ∉ t := by
  induction h with
  | one hFirst => exact hPiece _ _ hFirst
  | more hFirst hRest ih =>
    have hNot := hPiece _ _ hFirst
    simp only [List.mem_append, List.mem_cons, not_or]
    exact ⟨hNot, hc, ih⟩

theorem Separated.of_trim_eq (hSeparator : isBlank separator = false)
    (hPiece : ∀ t u b, Piece t b → Text.trim t = Text.trim u → Piece u b) {u : Text}
    (h : Separated separator Piece t bs) (hTrim : Text.trim t = Text.trim u) :
    Separated separator Piece u bs := by
  induction h generalizing u with
  | one hFirst => exact .one (hPiece _ _ _ hFirst hTrim)
  | more hFirst hRest ih =>
    obtain ⟨before, after, rfl, hBefore, hAfter⟩ := Text.exists_parts_of_trim_eq hSeparator hTrim
    exact .more (hPiece _ _ _ hFirst hBefore) (ih hAfter)

end Lists

/-! ## Numbers and spans -/

/-- The text is a numeral of the number, with blanks around it. -/
def Spells (t : Text) (n : Nat) : Prop :=
  ∃ before numeral after : Text, ∃ digits, before.isBlank = true ∧ after.isBlank = true ∧
    t = before ++ numeral ++ after ∧ Numeral.digits? numeral = some digits ∧
    Numeral.value digits = n

/-- Whether a character stands in no number, nor in the blanks around it. -/
def IsMark (c : Char) : Prop := isBlank c = false ∧ isDigit c = false

instance (c : Char) : Decidable (IsMark c) := inferInstanceAs (Decidable (_ ∧ _))

/-- The text is a span of columns of the line. -/
inductive ColumnsText (line : Nat) : Text → Item → Prop
  | span {c : CharRange} {first last : Text} (hLine : c.line = line)
      (hFirst : Spells first c.first) (hLast : Spells last c.last) :
      ColumnsText line (first ++ '-' :: last) (.columns c)

/-- The text is a list of spans of columns of the line. -/
abbrev SpansText (line : Nat) : Text → List Item → Prop := Separated '|' (ColumnsText line)

/-! ## Blocks and bodies -/

/-- The text is a block that names the items. -/
inductive BlockText (Gap : Text → Prop) : Text → List Item → Prop
  | line {n : LineNumber} {t : Text} (hLine : Spells t n.line) : BlockText Gap t [.line n]
  | range {r : LineRange} {first last : Text} (hFirst : Spells first r.first)
      (hLast : Spells last r.last) : BlockText Gap (first ++ '-' :: last) [.range r]
  | columns {line : Nat} {before spans : Text} {items : List Item} (hLine : Spells before line)
      (hSpans : SpansText line spans items) :
      BlockText Gap (before ++ ':' :: spans) items
  | braced {line : Nat} {before gap spans after : Text} {items : List Item}
      (hLine : Spells before line) (hGap : Gap gap) (hSpans : SpansText line spans items)
      (hAfter : after.isBlank = true) :
      BlockText Gap (before ++ ':' :: (gap ++ '\x7b' :: (spans ++ '\x7d' :: after))) items

/-- The text is a body that names the items. -/
inductive BodyText (Gap : Text → Prop) : Text → List Item → Prop
  | blank {body : Text} (hBlank : body.isBlank = true) : BodyText Gap body []
  | blocks {body : Text} {parts : List (List Item)}
      (hBlocks : Separated ',' (BlockText Gap) body parts) : BodyText Gap body parts.flatten

/-! ## Numbers -/

variable {t u : Text} {n line : Nat}

theorem spells_iff :
    Spells t n ↔ ∃ digits, paddedDigits? t = some digits ∧ Numeral.value digits = n := by
  unfold paddedDigits?
  constructor
  · rintro ⟨before, numeral, after, digits, hBefore, hAfter, rfl, hDigits, hValue⟩
    have hNumeral : Text.trim numeral = numeral :=
      Text.trim_eq_self fun c hc =>
        Numeral.isBlank_of_isDigit (Numeral.isDigit_of_digits? hDigits hc)
    refine ⟨digits, ?_, hValue⟩
    rw [Text.trim_between hBefore hAfter, hNumeral, hDigits]
  · rintro ⟨digits, hDigits, hValue⟩
    obtain ⟨before, after, hBefore, hAfter, hText⟩ := Text.exists_trim t
    exact ⟨before, Text.trim t, after, digits, hBefore, hAfter, hText, hDigits, hValue⟩

theorem Spells.of_trim_eq (h : Spells t n) (hTrim : Text.trim t = Text.trim u) : Spells u n := by
  rw [spells_iff] at h ⊢
  unfold paddedDigits? at h ⊢
  rwa [← hTrim]

theorem Spells.not_mem (h : Spells t n) {c : Char} (hMark : IsMark c) : c ∉ t := by
  obtain ⟨hBlank, hDigit⟩ := hMark
  obtain ⟨before, numeral, after, digits, hBefore, hAfter, rfl, hDigits, -⟩ := h
  intro hc
  rcases List.mem_append.mp hc with hc | hc
  · rcases List.mem_append.mp hc with hc | hc
    · rw [Text.isBlank_iff.mp hBefore c hc] at hBlank
      cases hBlank
    · rw [Numeral.isDigit_of_digits? hDigits hc] at hDigit
      cases hDigit
  · rw [Text.isBlank_iff.mp hAfter c hc] at hBlank
    cases hBlank

theorem Spells.isBlank_eq_false (h : Spells t n) : t.isBlank = false := by
  obtain ⟨digits, hDigits, -⟩ := spells_iff.mp h
  have hNe := (Numeral.digits?_eq_some hDigits).2
  cases hBlank : t.isBlank with
  | false => rfl
  | true => exact absurd (Text.trim_eq_nil_iff.mpr hBlank) hNe

/-! ## Spans -/

section Spans

variable {item : Item} {items : List Item} {c : Char}

theorem ColumnsText.of_trim_eq (h : ColumnsText line t item) (hTrim : Text.trim t = Text.trim u) :
    ColumnsText line u item := by
  cases h with
  | span hLine hFirst hLast =>
    obtain ⟨first, last, rfl, hFirst', hLast'⟩ := Text.exists_parts_of_trim_eq (by decide) hTrim
    exact .span hLine (hFirst.of_trim_eq hFirst') (hLast.of_trim_eq hLast')

theorem ColumnsText.not_mem (h : ColumnsText line t item) (hc : IsMark c ∧ c ≠ '-') : c ∉ t := by
  obtain ⟨hMark, hDash⟩ := hc
  cases h with
  | span hLine hFirst hLast =>
    have hNotFirst := hFirst.not_mem hMark
    have hNotLast := hLast.not_mem hMark
    simp only [List.mem_append, List.mem_cons, not_or]
    exact ⟨hNotFirst, hDash, hNotLast⟩

theorem SpansText.of_trim_eq (h : SpansText line t items) (hTrim : Text.trim t = Text.trim u) :
    SpansText line u items :=
  Separated.of_trim_eq (by decide) (fun _ _ _ hSpan hEq => hSpan.of_trim_eq hEq) h hTrim

theorem SpansText.not_mem (h : SpansText line t items) (hc : (IsMark c ∧ c ≠ '-') ∧ c ≠ '|') :
    c ∉ t :=
  Separated.not_mem hc.2 (fun _ _ hSpan => hSpan.not_mem hc.1) h

end Spans

/-! ## Blocks -/

/-- Blanks between the colon and the brace. -/
def Blanks (gap : Text) : Prop := gap.isBlank = true

theorem Text.not_mem_of_isBlank (h : t.isBlank = true) {c : Char} (hc : Excerpt.isBlank c = false) :
    c ∉ t := by
  intro hMem
  rw [Text.isBlank_iff.mp h c hMem] at hc
  cases hc

namespace BlockText

variable {items : List Item}

theorem of_trim_eq (h : BlockText Blanks t items) (hTrim : Text.trim t = Text.trim u) :
    BlockText Blanks u items := by
  cases h with
  | line hLine => exact .line (hLine.of_trim_eq hTrim)
  | range hFirst hLast =>
    obtain ⟨first, last, rfl, hFirst', hLast'⟩ := Text.exists_parts_of_trim_eq (by decide) hTrim
    exact .range (hFirst.of_trim_eq hFirst') (hLast.of_trim_eq hLast')
  | columns hLine hSpans =>
    obtain ⟨before, spans, rfl, hBefore, hAfter⟩ := Text.exists_parts_of_trim_eq (by decide) hTrim
    exact .columns (hLine.of_trim_eq hBefore) (hSpans.of_trim_eq hAfter)
  | @braced line before gap spans after items hLine hGap hSpans hAfter =>
    obtain ⟨before', rest, rfl, hBefore, hRest⟩ := Text.exists_parts_of_trim_eq (by decide) hTrim
    -- the braces stay, and what stands outside them is blank before and after
    have hOld : Text.trim (gap ++ '\x7b' :: (spans ++ '\x7d' :: after)) =
        '\x7b' :: (spans ++ ['\x7d']) := by
      rw [Text.trim_append_cons (by decide), Text.trimStart_eq_nil_iff.mpr hGap,
        Text.trimEnd_append_cons (by decide), Text.trimEnd_eq_nil_iff.mpr hAfter, List.nil_append]
    obtain ⟨gap', after', hGap', hAfter', hText⟩ := Text.exists_trim rest
    rw [← hRest, hOld] at hText
    have hParts : rest = gap' ++ '\x7b' :: (spans ++ '\x7d' :: after') := by simpa using hText
    rw [hParts]
    exact .braced (hLine.of_trim_eq hBefore) hGap' hSpans hAfter'

/-- No comma stands in a block. -/
theorem comma_not_mem (h : BlockText Blanks t items) : ',' ∉ t := by
  cases h with
  | line hLine => exact hLine.not_mem (by decide)
  | range hFirst hLast =>
    have hNotFirst : ',' ∉ _ := hFirst.not_mem (by decide)
    have hNotLast : ',' ∉ _ := hLast.not_mem (by decide)
    simp [hNotFirst, hNotLast]
  | columns hLine hSpans =>
    have hNotLine : ',' ∉ _ := hLine.not_mem (by decide)
    have hNotSpans : ',' ∉ _ := hSpans.not_mem (by decide)
    simp [hNotLine, hNotSpans]
  | braced hLine hGap hSpans hAfter =>
    have hNotLine : ',' ∉ _ := hLine.not_mem (by decide)
    have hNotSpans : ',' ∉ _ := hSpans.not_mem (by decide)
    have hNotGap : ',' ∉ _ := Text.not_mem_of_isBlank hGap (by decide)
    have hNotAfter : ',' ∉ _ := Text.not_mem_of_isBlank hAfter (by decide)
    simp [hNotLine, hNotGap, hNotSpans, hNotAfter]

end BlockText

/-! ## Braces -/

theorem foldl_depthBehind (hOpen : '\x7b' ∉ t) (hClose : '\x7d' ∉ t) (depth : Int) :
    t.foldl depthBehind depth = depth := by
  induction t with
  | nil => rfl
  | cons c rest ih =>
    obtain ⟨hNotOpen, hOpen⟩ := not_or.mp (fun h => hOpen (List.mem_cons.mpr h))
    obtain ⟨hNotClose, hClose⟩ := not_or.mp (fun h => hClose (List.mem_cons.mpr h))
    have hBehind : depthBehind depth c = depth := by
      unfold depthBehind
      rw [if_neg (Ne.symm hNotOpen), if_neg (Ne.symm hNotClose)]
    rw [List.foldl_cons, hBehind, ih hOpen hClose]

theorem Spells.depth (h : Spells t n) (depth : Int) : t.foldl depthBehind depth = depth :=
  foldl_depthBehind (h.not_mem (by decide)) (h.not_mem (by decide)) depth

theorem SpansText.depth {items : List Item} (h : SpansText line t items) (depth : Int) :
    t.foldl depthBehind depth = depth := by
  refine foldl_depthBehind ?_ ?_ depth
  · exact h.not_mem (by decide)
  · exact h.not_mem (by decide)

theorem Text.depth_of_isBlank (h : t.isBlank = true) (depth : Int) :
    t.foldl depthBehind depth = depth :=
  foldl_depthBehind (not_mem_of_isBlank h (by decide)) (not_mem_of_isBlank h (by decide)) depth

/-- As many braces close in a block as open. -/
theorem BlockText.depth {items : List Item} (h : BlockText Blanks t items) (depth : Int) :
    t.foldl depthBehind depth = depth := by
  have hDash (d : Int) : depthBehind d '-' = d := rfl
  have hColon (d : Int) : depthBehind d ':' = d := rfl
  have hOpen (d : Int) : depthBehind d '\x7b' = d + 1 := rfl
  have hClose (d : Int) : depthBehind d '\x7d' = d - 1 := rfl
  cases h with
  | line hLine => exact hLine.depth depth
  | range hFirst hLast =>
    rw [List.foldl_append, List.foldl_cons, hFirst.depth, hDash, hLast.depth]
  | columns hLine hSpans =>
    rw [List.foldl_append, List.foldl_cons, hLine.depth, hColon, hSpans.depth]
  | braced hLine hGap hSpans hAfter =>
    rw [List.foldl_append, List.foldl_cons, hLine.depth, hColon, List.foldl_append,
      List.foldl_cons, Text.depth_of_isBlank hGap, hOpen, List.foldl_append, List.foldl_cons,
      hSpans.depth, hClose, Text.depth_of_isBlank hAfter]
    omega

end Excerpt
