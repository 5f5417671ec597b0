import Excerpt.Proofs.Selector.Highlights

/-!
# The commas of a body

A comma ends a piece of a body if as many braces are opened as are closed in the piece before it; all
other commas belong to the piece. So every body has one list of pieces, and its blocks are these
without the blanks around them. A body of blanks alone has none.

* `foldl_depthBehind_eq`: the depth of braces by their numbers.
* `outerPieces_iff`: the pieces of a text are those into which it is taken apart.
* `BodyPieces.blocks_eq`, `existsUnique_bodyPieces`: the pieces of a body.
* `BodyPieces.rewritten`: pieces that are written in another way, with braces and commas as before.
-/

namespace Excerpt

/-! ## Pieces -/

/-- Whether as many braces open in the text as close. -/
def Text.IsLevel (t : Text) : Prop := t.count '\x7b' = t.count '\x7d'

/-- Whether no comma in the text has as many opening as closing braces before it. -/
def Text.KeepsCommas (t : Text) : Prop :=
  ∀ before after : Text, t = before ++ ',' :: after → ¬ before.IsLevel

/-- Whether neither a comma nor a bracket of any kind stands in the text. -/
def Text.IsBare (t : Text) : Prop :=
  ∀ c ∈ t, c ≠ ',' ∧ ∀ bracket : Bracket, c ≠ bracket.opener ∧ c ≠ bracket.closer

/-- Whether two texts differ in their fronts only, and neither front has a comma or a bracket. -/
def Text.DifferInFront (t u : Text) : Prop :=
  ∃ front front' rest : Text, front.IsBare ∧ front'.IsBare ∧ t = front ++ rest ∧ u = front' ++ rest

/-- The pieces of a text between the commas that stand outside of braces. -/
inductive OuterPieces : Text → List Text → Prop
  | last {piece : Text} (hCommas : piece.KeepsCommas) : OuterPieces piece [piece]
  | more {piece rest : Text} {pieces : List Text} (hCommas : piece.KeepsCommas)
      (hLevel : piece.IsLevel) (hRest : OuterPieces rest pieces) :
      OuterPieces (piece ++ ',' :: rest) (piece :: pieces)

/-- The pieces of a body. -/
inductive BodyPieces : Text → List Text → Prop
  | blank {body : Text} (hBlank : body.isBlank = true) : BodyPieces body []
  | outer {body : Text} {pieces : List Text} (hBlank : body.isBlank = false)
      (hPieces : OuterPieces body pieces) : BodyPieces body pieces

variable {body t : Text} {pieces : List Text}

/-! ## Depth -/

theorem foldl_depthBehind_eq (t : Text) (depth : Int) :
    t.foldl depthBehind depth = depth + t.count '\x7b' - t.count '\x7d' := by
  induction t generalizing depth with
  | nil => simp
  | cons c rest ih =>
    rw [List.foldl_cons, ih, depthBehind, List.count_cons, List.count_cons]
    by_cases hOpen : c = '\x7b'
    · simp [hOpen]
      omega
    · by_cases hClose : c = '\x7d'
      · simp [hClose]
        omega
      · simp [hOpen, hClose]

theorem Text.isLevel_iff : t.IsLevel ↔ t.foldl depthBehind 0 = 0 := by
  rw [foldl_depthBehind_eq, Text.IsLevel]
  omega

theorem Text.KeepsCommas.depth_ne (h : t.KeepsCommas) :
    ∀ before after : Text, t = before ++ ',' :: after → before.foldl depthBehind 0 ≠ 0 :=
  fun before after hSplit => mt Text.isLevel_iff.mpr (h before after hSplit)

/-- Nothing is in hand at the beginning of a piece. -/
theorem keepsCommas_reverse_nil : Text.KeepsCommas (List.reverse []) := by
  intro before after hSplit
  simp at hSplit

/-! ## Taking a text apart -/

theorem splitBlocks_of_keepsCommas {depth : Int} {current : Text}
    (h : ∀ before after, t = before ++ ',' :: after → before.foldl depthBehind depth ≠ 0)
    (behind : Text) : splitBlocks depth current (t ++ behind) =
      splitBlocks (t.foldl depthBehind depth) (t.reverse ++ current) behind := by
  induction t generalizing depth current with
  | nil => rfl
  | cons c rest ih =>
    have hStep : ¬ (c = ',' ∧ depth = 0) := by
      rintro ⟨rfl, hDepth⟩
      exact h [] rest rfl hDepth
    have hRest : ∀ before after, rest = before ++ ',' :: after →
        before.foldl depthBehind (depthBehind depth c) ≠ 0 := by
      intro before after hSplit
      exact h (c :: before) after (by rw [hSplit, List.cons_append])
    rw [List.cons_append, splitBlocks, if_neg hStep, ih hRest]
    simp

theorem OuterPieces.splitBlocks_eq (h : OuterPieces body pieces) :
    splitBlocks 0 [] body = pieces := by
  induction h with
  | @last piece hCommas =>
    have hAll : splitBlocks 0 [] (piece ++ []) = _ :=
      splitBlocks_of_keepsCommas hCommas.depth_ne []
    simpa [splitBlocks] using hAll
  | @more piece rest pieces hCommas hLevel _ ih =>
    rw [splitBlocks_of_keepsCommas hCommas.depth_ne, Text.isLevel_iff.mp hLevel, splitBlocks,
      if_pos ⟨rfl, rfl⟩, ih]
    simp

/-- What is taken apart is a text of pieces, of which the first has begun with what is in hand. -/
theorem outerPieces_splitBlocks {depth : Int} {current : Text}
    (hDepth : current.reverse.foldl depthBehind 0 = depth)
    (hCommas : Text.KeepsCommas current.reverse) (t : Text) :
    OuterPieces (current.reverse ++ t) (splitBlocks depth current t) := by
  induction t generalizing depth current with
  | nil =>
    rw [splitBlocks, List.append_nil]
    exact .last hCommas
  | cons c rest ih =>
    rw [splitBlocks]
    by_cases hComma : c = ',' ∧ depth = 0
    · obtain ⟨rfl, rfl⟩ := hComma
      have hRest := ih rfl keepsCommas_reverse_nil
      rw [if_pos ⟨rfl, rfl⟩]
      exact .more hCommas (Text.isLevel_iff.mpr hDepth) hRest
    · have hNext : Text.KeepsCommas (c :: current).reverse := by
        intro before after hSplit
        rw [List.reverse_cons] at hSplit
        cases after using List.reverseRecOn with
        | nil =>
          obtain ⟨rfl, hc⟩ := List.append_inj' hSplit rfl
          obtain rfl : c = ',' := by simpa using hc
          rw [Text.isLevel_iff, hDepth]
          exact fun hZero => hComma ⟨rfl, hZero⟩
        | append_singleton after last =>
          rw [← List.cons_append, ← List.append_assoc] at hSplit
          exact hCommas before after (List.append_inj' hSplit rfl).1
      have hBehind : (c :: current).reverse.foldl depthBehind 0 = depthBehind depth c := by
        rw [List.reverse_cons, List.foldl_append, hDepth, List.foldl_cons, List.foldl_nil]
      have hRest := ih hBehind hNext
      rw [if_neg hComma]
      simpa using hRest

theorem outerPieces_iff : OuterPieces body pieces ↔ splitBlocks 0 [] body = pieces := by
  refine ⟨OuterPieces.splitBlocks_eq, ?_⟩
  rintro rfl
  exact outerPieces_splitBlocks rfl keepsCommas_reverse_nil body

/-! ## The pieces of a body -/

theorem BodyPieces.blocks_eq (h : BodyPieces body pieces) : blocks body = pieces.map Text.trim := by
  cases h with
  | blank hBlank => rw [blocks_of_isBlank hBlank, List.map_nil]
  | outer hBlank hPieces =>
    unfold blocks
    rw [hBlank, outerPieces_iff.mp hPieces]
    rfl

theorem BodyPieces.infix_of_mem (h : BodyPieces body pieces) {piece : Text} (hMem : piece ∈ pieces) :
    piece <:+: body := by
  cases h with
  | blank _ => cases hMem
  | outer _ hPieces =>
    rw [← hPieces.splitBlocks_eq] at hMem
    simpa using infix_of_splitBlocks hMem

theorem existsUnique_bodyPieces (body : Text) : ∃! pieces, BodyPieces body pieces := by
  cases hBlank : body.isBlank with
  | true =>
    refine ⟨[], .blank hBlank, ?_⟩
    intro pieces hPieces
    cases hPieces with
    | blank _ => rfl
    | outer hNot _ => cases hBlank.symm.trans hNot
  | false =>
    refine ⟨splitBlocks 0 [] body, .outer hBlank (outerPieces_iff.mpr rfl), ?_⟩
    intro pieces hPieces
    cases hPieces with
    | blank hNot => cases hBlank.symm.trans hNot
    | outer _ hOuter => exact (outerPieces_iff.mp hOuter).symm

/-! ## Pieces that are written in another way -/

namespace Text

variable {front : Text}

theorem isBare_nil : IsBare [] := nofun

theorem isBare_append {u : Text} (ht : t.IsBare) (hu : u.IsBare) : (t ++ u).IsBare :=
  List.forall_mem_append.mpr ⟨ht, hu⟩

/-- Commas and brackets are marks, and stand neither in numbers nor in blanks. -/
theorem isBare_of_not_isMark (h : ∀ c ∈ t, ¬ IsMark c) : t.IsBare := by
  have hOpener (bracket : Bracket) : IsMark bracket.opener := by cases bracket <;> decide
  have hCloser (bracket : Bracket) : IsMark bracket.closer := by cases bracket <;> decide
  intro c hc
  refine ⟨?_, fun bracket => ⟨?_, ?_⟩⟩
  · rintro rfl
    exact h _ hc (by decide)
  · rintro rfl
    exact h _ hc (hOpener bracket)
  · rintro rfl
    exact h _ hc (hCloser bracket)

theorem isBare_of_isBlank (h : t.isBlank = true) : t.IsBare := by
  refine isBare_of_not_isMark fun c hc hMark => ?_
  exact not_mem_of_isBlank h hMark.1 hc

theorem isBare_of_spells {n : Nat} (h : Spells t n) : t.IsBare :=
  isBare_of_not_isMark fun _ hc hMark => h.not_mem hMark hc

theorem isLevel_append_of_isBare (h : front.IsBare) : (front ++ t).IsLevel ↔ t.IsLevel := by
  have hOpen : '\x7b' ∉ front := fun hMem => ((h _ hMem).2 .brace).1 rfl
  have hClose : '\x7d' ∉ front := fun hMem => ((h _ hMem).2 .brace).2 rfl
  simp only [IsLevel, List.count_append, List.count_eq_zero_of_not_mem hOpen,
    List.count_eq_zero_of_not_mem hClose, Nat.zero_add]

theorem keepsCommas_append_of_isBare (h : front.IsBare) :
    KeepsCommas (front ++ t) ↔ t.KeepsCommas := by
  constructor
  · intro hAll before after hSplit
    rw [← isLevel_append_of_isBare h]
    exact hAll (front ++ before) after (by rw [hSplit, List.append_assoc])
  · intro hRest before after hSplit
    rcases List.append_eq_append_iff.mp hSplit with ⟨before', rfl, hBehind⟩ | ⟨behind, rfl, hBehind⟩
    · rw [isLevel_append_of_isBare h]
      exact hRest before' after hBehind
    · cases behind with
      | nil => exact mt (isLevel_append_of_isBare h).mp (hRest [] after hBehind.symm) ∘ (by simp)
      | cons c behind =>
        cases hBehind
        exact absurd rfl (h ',' (by simp)).1

end Text

variable {pieces' : List Text}

theorem Text.DifferInFront.behind {t u front : Text} (h : t.DifferInFront u)
    (hFront : front.IsBare) : (front ++ t).DifferInFront (front ++ u) := by
  obtain ⟨old, new, rest, hOld, hNew, rfl, rfl⟩ := h
  exact ⟨front ++ old, front ++ new, rest, isBare_append hFront hOld, isBare_append hFront hNew,
    (List.append_assoc ..).symm, (List.append_assoc ..).symm⟩

theorem Text.DifferInFront.keepsCommas_iff {t u : Text} (h : t.DifferInFront u) :
    t.KeepsCommas ↔ u.KeepsCommas := by
  obtain ⟨front, front', rest, hFront, hFront', rfl, rfl⟩ := h
  rw [keepsCommas_append_of_isBare hFront, keepsCommas_append_of_isBare hFront']

theorem Text.DifferInFront.isLevel_iff {t u : Text} (h : t.DifferInFront u) :
    t.IsLevel ↔ u.IsLevel := by
  obtain ⟨front, front', rest, hFront, hFront', rfl, rfl⟩ := h
  rw [isLevel_append_of_isBare hFront, isLevel_append_of_isBare hFront']

theorem OuterPieces.ne_nil (h : OuterPieces body pieces) : pieces ≠ [] := by
  cases h <;> simp

theorem OuterPieces.rewritten (h : OuterPieces body pieces)
    (hPieces : List.Forall₂ Text.DifferInFront pieces pieces') :
    OuterPieces (Text.join [','] pieces') pieces' := by
  induction h generalizing pieces' with
  | last hCommas =>
    obtain ⟨last, others, hLast, hNone, rfl⟩ := List.forall₂_cons_left_iff.mp hPieces
    obtain rfl := List.forall₂_nil_left_iff.mp hNone
    simpa [Text.join] using OuterPieces.last (hLast.keepsCommas_iff.mp hCommas)
  | more hCommas hLevel hRest ih =>
    obtain ⟨first, others, hFirst, hOthers, rfl⟩ := List.forall₂_cons_left_iff.mp hPieces
    have hMore := OuterPieces.more (hFirst.keepsCommas_iff.mp hCommas)
      (hFirst.isLevel_iff.mp hLevel) (ih hOthers)
    obtain ⟨second, others, rfl⟩ := List.exists_cons_of_ne_nil (ih hOthers).ne_nil
    rwa [Text.join_cons_cons, List.append_assoc]

theorem OuterPieces.isBlank_eq_false (h : OuterPieces body pieces)
    (hPieces : ∀ piece ∈ pieces, Text.isBlank piece = false) : body.isBlank = false := by
  cases h with
  | last _ => exact hPieces body (by simp)
  | more hCommas hLevel hRest => simp [Text.isBlank, isBlank]

/-- Pieces that differ from those of a body in their fronts only are the pieces of the body that they
make, unless it is blank. -/
theorem BodyPieces.rewritten (h : BodyPieces body pieces)
    (hPieces : List.Forall₂ Text.DifferInFront pieces pieces')
    (hBlank : ∀ piece ∈ pieces', Text.isBlank piece = false) :
    BodyPieces (Text.join [','] pieces') pieces' := by
  cases h with
  | blank _ =>
    obtain rfl := List.forall₂_nil_left_iff.mp hPieces
    exact .blank rfl
  | outer _ hOuter =>
    have hRewritten := hOuter.rewritten hPieces
    exact .outer (hRewritten.isBlank_eq_false hBlank) hRewritten

end Excerpt
