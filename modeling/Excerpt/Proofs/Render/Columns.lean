import Excerpt.Proofs.Insertion.Phases
import Excerpt.Proofs.Render.Marks
import Excerpt.Proofs.Render.Shift
import Excerpt.Proofs.Selector.Edits

/-!
# Columns that are edited

A block of edits can name several columns of a line, and each of them makes an edit of its own. But
one edit applies to a line, the first that names it, so only the first columns of the block are
taken out; the others stay in what comes before them or behind them.

* `Edits.exists_firstMatch_of_toAbsolute`: what applies to a line that is counted from a block.
* `Rendering.edited_columns`: a line to which an edit of columns applies.
* `Rendering.edited_of_block`: a line that a block of edits names by its columns.
-/

namespace Excerpt

/-! ## The edit that applies -/

theorem Item.shift_zero (item : Item) : item.shift 0 = item := by
  cases item <;> rfl

/-- Edits that are counted from a block apply to its lines as to the lines that they name. -/
theorem Edits.exists_firstMatch_of_toAbsolute {e e' : Edits} {base : Option LineRange}
    {line : Nat} {n : Int} (hEdits : e.toAbsolute base = .ok e')
    (hLine : e.mode.toAbsolute line base = .ok n) :
    ∃ k, e'.firstMatch n = (e.firstMatch line).map (Edit.shift k) := by
  obtain ⟨items, mode⟩ := e
  cases mode with
  | absolute =>
    cases hEdits
    cases hLine
    have hSame : Edit.shift 0 = id := by
      funext edit
      rw [Edit.shift, Item.shift_zero]
      rfl
    refine ⟨0, ?_⟩
    rw [hSame, Option.map_id]
    rfl
  | relative =>
    cases base with
    | none => cases hLine
    | some base =>
      rw [toAbsolute_onto] at hEdits
      rw [Addressing.toAbsolute_relative] at hLine
      cases hEdits
      cases hLine
      rw [Int.natCast_add]
      exact ⟨base.first - 1, firstMatch_shift ⟨items, .relative⟩ (base.first - 1) line⟩

/-! ## What is left of a line -/

/-- What stands in the columns of a line. -/
def CharRange.textIn (c : CharRange) (line : Text) : Text :=
  (line.take c.last).drop (c.first - 1)

theorem CharRange.split_textIn (c : CharRange) (line : Text) :
    line.take (c.first - 1) ++ c.textIn line ++ line.drop c.last = line := by
  have hOrder := c.first_le_last
  have hFront : line.take (c.first - 1) = (line.take c.last).take (c.first - 1) := by
    rw [List.take_take, Nat.min_eq_left (by omega)]
  rw [hFront, textIn, List.take_append_drop, List.take_append_drop]

/-- Columns that do not overlap others stand before them or behind them. -/
theorem CharRange.textIn_infix {c d : CharRange} (h : Highlights.Apart c d) (line : Text) :
    d.textIn line <:+: line.take (c.first - 1) ∨ d.textIn line <:+: line.drop c.last := by
  rcases h with hBehind | hBefore
  · right
    have hStart : c.last + (d.first - 1 - c.last) = d.first - 1 := by omega
    have hSize : d.last - c.last - (d.first - 1 - c.last) = d.last - (d.first - 1) := by omega
    have hSplit : d.textIn line =
        ((line.drop c.last).take (d.last - c.last)).drop (d.first - 1 - c.last) := by
      rw [textIn, List.drop_take, List.drop_take, List.drop_drop, hStart, hSize]
    rw [hSplit]
    exact (List.drop_suffix _ _).isInfix.trans (List.take_prefix _ _).isInfix
  · left
    have hTake : line.take d.last = (line.take (c.first - 1)).take d.last := by
      rw [List.take_take, Nat.min_eq_left (by omega)]
    rw [textIn, hTake]
    exact (List.drop_suffix _ _).isInfix.trans (List.take_prefix _ _).isInfix

/-- What is put into a line in place of columns, between the marks of a comment. -/
def EditKind.filling : EditKind → Text
  | .ellipsis => Edit.ellipsis ++ [' ']
  | _ => []

theorem Edit.applyColumns_of_hasBlocks {style : CommentStyle} (h : style.hasBlocks = true)
    (kind : EditKind) (c : CharRange) (line : Text) :
    applyColumns kind c style line =
      line.take (c.first - 1) ++ style.inside kind.filling ++ line.drop c.last := by
  cases kind <;> simp [applyColumns, h, EditKind.filling]

theorem Edit.applyColumns_of_not_hasBlocks {style : CommentStyle} (h : style.hasBlocks = false)
    (kind : EditKind) (c : CharRange) (line : Text) :
    applyColumns kind c style line =
      if kind = .ellipsis then
        Text.trimEnd (line.take (c.first - 1) ++ line.drop c.last) ++ ' ' :: style.toEnd ellipsis
      else line.take (c.first - 1) ++ line.drop c.last := by
  simp [applyColumns, h]

namespace Rendering

variable {r : Rendering} {code : CodeBlock} {n : Nat} {raw : Text}

theorem edited_columns {c : CharRange} {kind : EditKind}
    (hMatch : r.edits.firstMatch n = some ⟨.columns c, kind⟩) (hWithin : c.last ≤ raw.length) :
    r.edited code n raw = .ok (some (Edit.applyColumns kind c r.style raw)) := by
  simp only [edited, hMatch, Edit.apply, if_neg (Nat.not_lt.mpr hWithin)]

/-- A line that a block of edits names by columns, no two of which overlap: the first of them are
taken out, and every other of them stays in what is before them or behind them. -/
theorem edited_of_block {source : SelectorSource} {e : Edits} {base : Option LineRange}
    {before after : List Text} {block : Text} {kind : EditKind} {c : CharRange}
    {rest : List CharRange}
    (hRead : (readEdits (some source)).outcome = .ok e)
    (hEdits : e.toAbsolute base = .ok r.edits)
    (hBlocks : blocks source.body = before ++ block :: after)
    (hBlock : EditText Blanks block kind ((c :: rest).map .columns))
    (hBefore : ∀ other ∈ before, ∀ part, (readEdit other).outcome = .ok part →
      ∀ passed ∈ part, passed.item.contains c.line = false)
    (hLine : source.mode.toAbsolute c.line base = .ok n)
    (hApart : (c :: rest).Pairwise Highlights.Apart)
    (hWithin : ∀ d ∈ c :: rest, d.last ≤ raw.length) :
    ∃ front back, raw = front ++ c.textIn raw ++ back ∧ front.length = c.first - 1 ∧
      (r.style.hasBlocks = true →
        r.edited code n raw = .ok (some (front ++ r.style.inside kind.filling ++ back))) ∧
      (r.style.hasBlocks = false →
        r.edited code n raw = .ok (some (if kind = .ellipsis then
          Text.trimEnd (front ++ back) ++ ' ' :: r.style.toEnd Edit.ellipsis
          else front ++ back))) ∧
      ∀ d ∈ rest, d.textIn raw <:+: front ∨ d.textIn raw <:+: back := by
  have hFirst : e.firstMatch c.line = some ⟨.columns c, kind⟩ :=
    firstMatch_of_blocks hRead hBlocks hBefore hBlock (beq_self_eq_true _)
  have hMode : e.mode = source.mode := by
    obtain ⟨-, -, rfl⟩ := readEdits_eq_ok_iff.mp hRead
    rfl
  obtain ⟨k, hMatch⟩ := Edits.exists_firstMatch_of_toAbsolute hEdits (hMode ▸ hLine)
  rw [hFirst] at hMatch
  have hLast : c.last ≤ raw.length := hWithin c List.mem_cons_self
  have hOrder := c.first_le_last
  have hEdited : r.edited code n raw = .ok (some (Edit.applyColumns kind c r.style raw)) :=
    edited_columns (c := c.shift k) hMatch hLast
  refine ⟨raw.take (c.first - 1), raw.drop c.last, (c.split_textIn raw).symm, ?_, ?_, ?_, ?_⟩
  · rw [List.length_take]
    omega
  · intro hBlocks
    rw [hEdited, Edit.applyColumns_of_hasBlocks hBlocks]
  · intro hBlocks
    rw [hEdited, Edit.applyColumns_of_not_hasBlocks hBlocks]
  · intro d hd
    exact CharRange.textIn_infix (List.rel_of_pairwise_cons hApart hd) raw

/-- Two columns of the first line, to be hidden. -/
def hiddenPair : SelectorSource := ⟨"h1:1-2|4-5".toList, .absolute⟩

theorem editText_hiddenPair : EditText Blanks hiddenPair.body .hide
    ([⟨1, 1, 2, by decide, by decide, by decide⟩,
      ⟨1, 4, 5, by decide, by decide, by decide⟩].map .columns) := by
  have hRead : readBlock "1:1-2|4-5".toList = .ok
      ([⟨1, 1, 2, by decide, by decide, by decide⟩,
        ⟨1, 4, 5, by decide, by decide, by decide⟩].map .columns) := by decide +kernel
  exact @EditText.lettered Blanks .hide _ _ (readBlock_eq_ok_iff_blockText.mp hRead).1

theorem edited_of_block_hiddenPair :
    ∃ r : Rendering, r.style = .slashes ∧ (readEdits (some hiddenPair)).outcome = .ok r.edits ∧
      blocks hiddenPair.body = [] ++ hiddenPair.body :: [] ∧
      r.edited ⟨⟨1, 1, by decide, by decide⟩, ["abcdef".toList]⟩ 1 "abcdef".toList =
        .ok (some "/**/cdef".toList) ∧
      ("de".toList <:+: "cdef".toList) := by
  let r : Rendering :=
    ⟨.slashes, {}, ⟨[⟨.columns ⟨1, 1, 2, by decide, by decide, by decide⟩, .hide⟩,
      ⟨.columns ⟨1, 4, 5, by decide, by decide, by decide⟩, .hide⟩], .absolute⟩, {}⟩
  have hRead : (readEdits (some hiddenPair)).outcome = .ok r.edits := by decide +kernel
  have hBlocks : blocks hiddenPair.body = [] ++ hiddenPair.body :: [] := by decide +kernel
  have hApart : [(⟨1, 1, 2, by decide, by decide, by decide⟩ : CharRange),
      ⟨1, 4, 5, by decide, by decide, by decide⟩].Pairwise Highlights.Apart := by
    simp [Highlights.Apart]
  have hBefore : ∀ other ∈ ([] : List Text), ∀ part, (readEdit other).outcome = .ok part →
      ∀ passed ∈ part, passed.item.contains (1 : Nat) = false :=
    fun other hOther => absurd hOther List.not_mem_nil
  obtain ⟨front, back, hRaw, hLength, hEdited, -, hRest⟩ :=
    @edited_of_block r ⟨⟨1, 1, by decide, by decide⟩, ["abcdef".toList]⟩ 1 "abcdef".toList
      hiddenPair _ none _ _ _ _ _ _ hRead rfl hBlocks editText_hiddenPair hBefore rfl
      hApart (by decide)
  obtain rfl : front = [] := List.length_eq_zero_iff.mp hLength
  have hLetters : "ab".toList ++ "cdef".toList = "ab".toList ++ back := hRaw
  obtain rfl : "cdef".toList = back := List.append_cancel_left hLetters
  have hSecond : "de".toList <:+: [] ∨ "de".toList <:+: "cdef".toList :=
    hRest _ List.mem_cons_self
  exact ⟨r, rfl, hRead, hBlocks, hEdited rfl, hSecond.resolve_left (by decide)⟩

/-- Of the two columns the second stay. -/
theorem not_edited_everywhere :
    ∃ r : Rendering, r.style = .slashes ∧ (readEdits (some hiddenPair)).outcome = .ok r.edits ∧
      r.lines ⟨⟨1, 1, by decide, by decide⟩, ["abcdef".toList]⟩ = .ok ["/**/cdef".toList] ∧
      r.lines ⟨⟨1, 1, by decide, by decide⟩, ["abcdef".toList]⟩ ≠ .ok ["/**/c/**/f".toList] := by
  let r : Rendering :=
    ⟨.slashes, {}, ⟨[⟨.columns ⟨1, 1, 2, by decide, by decide, by decide⟩, .hide⟩,
      ⟨.columns ⟨1, 4, 5, by decide, by decide, by decide⟩, .hide⟩], .absolute⟩, {}⟩
  have hLines : r.lines ⟨⟨1, 1, by decide, by decide⟩, ["abcdef".toList]⟩ =
      .ok ["/**/cdef".toList] := by rfl
  refine ⟨r, rfl, by decide +kernel, hLines, ?_⟩
  rw [hLines]
  decide

end Rendering

end Excerpt
