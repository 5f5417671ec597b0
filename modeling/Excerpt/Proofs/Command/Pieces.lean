import Excerpt.Proofs.Command.Suffixes

/-!
# The grammar of suffixes

A text behind a command is read exactly if it is made of pieces, with blanks before, between and
behind them: each piece stands in brackets of its own kind, no kind is used twice, and what stands
in a piece opens and closes its bracket in pairs, whatever else it holds. So the pieces can be told
from the text, and their order does not count.

* `balanced_iff`, `balanced_iff_pairs`: the text of a piece by the numbers of its brackets.
* `splitFrom_of_piecesText`, `exists_piecesText_of_splitFrom`: pieces are read from a text exactly
  if it is made of them.
* `PiecesText.source?_foldl`: what is read for each kind of bracket.
* `split_grammar`: the texts that are read, what is read from them, and all others.
-/

namespace Excerpt

/-- Whether a text closes a bracket as often as it opens it, and no front of it more often. -/
structure Bracket.Pairs (b : Bracket) (t : Text) : Prop where
  fronts : ∀ front, front <+: t → front.count b.closer ≤ front.count b.opener
  whole : t.count b.closer = t.count b.opener

namespace Suffixes

/-! ## Brackets in pairs -/

/-- Openers count up and closers count down, so what is open at any place can be counted. -/
theorem balanced_iff {b : Bracket} {depth : Nat} {t : Text} :
    Balanced b depth t ↔
      (∀ front, front <+: t → front.count b.closer ≤ front.count b.opener + depth) ∧
        t.count b.closer = t.count b.opener + depth := by
  have hCloser : b.closer ≠ b.opener := (b.opener_ne_closer b).symm
  induction t generalizing depth with
  | nil =>
    simp only [Balanced, List.prefix_nil, forall_eq, List.count_nil]
    omega
  | cons c rest ih =>
    have hFronts (P : Text → Prop) (hNil : P []) :
        (∀ front, front <+: c :: rest → P front) ↔ ∀ front, front <+: rest → P (c :: front) := by
      constructor
      · intro h front hFront
        exact h _ (List.cons_prefix_cons.mpr ⟨rfl, hFront⟩)
      · intro h front hFront
        rcases List.prefix_cons_iff.mp hFront with rfl | ⟨tail, rfl, hTail⟩
        · exact hNil
        · exact h tail hTail
    rw [hFronts _ (by simp), Balanced]
    by_cases hOpen : c = b.opener
    · subst hOpen
      simp only [if_true, ih, List.count_cons_self, List.count_cons_of_ne hCloser.symm,
        Nat.add_right_comm _ 1, Nat.add_assoc]
    · rw [if_neg hOpen]
      by_cases hClose : c = b.closer
      · subst hClose
        simp only [if_true, ih, List.count_cons_self, List.count_cons_of_ne hCloser]
        constructor
        · rintro ⟨n, rfl, hAll, hWhole⟩
          refine ⟨fun front hFront => ?_, by omega⟩
          have := hAll front hFront
          omega
        · rintro ⟨hAll, hWhole⟩
          -- the closer in front needs an opener before it
          have hDepth := hAll [] List.nil_prefix
          simp only [List.count_nil] at hDepth
          refine ⟨depth - 1, by omega, fun front hFront => ?_, by omega⟩
          have := hAll front hFront
          omega
      · simp only [if_neg hClose, ih, List.count_cons_of_ne hOpen, List.count_cons_of_ne hClose]

theorem balanced_iff_pairs {b : Bracket} {t : Text} : Balanced b 0 t ↔ b.Pairs t := by
  rw [balanced_iff]
  exact ⟨fun h => ⟨h.1, h.2⟩, fun h => ⟨h.fronts, h.whole⟩⟩

/-! ## Texts that are made of pieces -/

/-- A text of pieces, with blanks before, between and behind them. -/
inductive PiecesText : Text → List Piece → Prop
  | nil {gap : Text} (hGap : gap.isBlank = true) : PiecesText gap []
  | cons {gap rest : Text} {p : Piece} {ps : List Piece} (hGap : gap.isBlank = true)
      (hPairs : p.bracket.Pairs p.source.body)
      (hAbsolute : p.bracket = .square → p.source.mode = .absolute)
      (hNew : ∀ q ∈ ps, q.bracket ≠ p.bracket) (hRest : PiecesText rest ps) :
      PiecesText (gap ++ (p.text ++ rest)) (p :: ps)

theorem splitFrom_of_piecesText {t : Text} {ps : List Piece} (h : PiecesText t ps)
    {found : Suffixes} (hNew : ∀ p ∈ ps, found.has p.bracket = false) (whole : Text) :
    splitFrom whole found t = .ok (ps.foldl addPiece found) := by
  induction h generalizing found with
  | nil hGap =>
    rw [splitFrom_of_isBlank hGap]
    rfl
  | @cons gap rest p ps hGap hPairs hAbsolute hOther _ ih =>
    have hClosed : p.IsClosed := ⟨balanced_iff_pairs.mpr hPairs, hAbsolute⟩
    rw [splitFrom_text hGap hClosed (hNew p List.mem_cons_self), List.foldl_cons]
    apply ih
    intro q hq
    exact has_add_of_ne _ (hOther q hq) (hNew q (List.mem_cons_of_mem _ hq))

theorem text_of_openPiece? {t rest : Text} {mode : Addressing} {bracket : Bracket}
    (h : openPiece? t = some (mode, bracket, rest)) :
    t = markOf mode ++ bracket.opener :: rest := by
  unfold openPiece? at h
  split at h
  · cases h
    rfl
  · cases h
    rfl
  · obtain ⟨b, hOpener, hEq⟩ := Option.map_eq_some_iff.mp h
    cases hEq
    rw [Bracket.opener_of_ofOpener hOpener]
    rfl
  · cases h

/-- What is read was found before or stands in pieces of which the text is made. -/
theorem exists_piecesText_of_splitFrom {whole t : Text} {found s : Suffixes}
    (h : splitFrom whole found t = .ok s) :
    ∃ ps, PiecesText t ps ∧ (∀ p ∈ ps, found.has p.bracket = false) ∧
      s = ps.foldl addPiece found := by
  induction found, t using splitFrom.induct with
  | case1 found t hTrim =>
    rw [splitFrom_eq] at h
    simp only [hTrim] at h
    cases h
    exact ⟨[], .nil (Text.trimStart_eq_nil_iff.mp hTrim), List.forall_mem_nil _, rfl⟩
  | case2 found t c rest hTrim hOpen =>
    rw [splitFrom_eq] at h
    simp only [hTrim, hOpen] at h
    cases h
  | case3 found t c rest hTrim mode bracket inner hOpen hHas =>
    rw [splitFrom_eq] at h
    simp only [hTrim, hOpen, if_pos hHas] at h
    cases h
  | case4 found t c rest hTrim mode bracket inner hOpen hHas hClose =>
    rw [splitFrom_eq] at h
    simp only [hTrim, hOpen, if_neg hHas, hClose] at h
    cases h
  | case5 found t c rest hTrim mode bracket inner hOpen hHas body after hClose ih =>
    rw [splitFrom_eq] at h
    simp only [hTrim, hOpen, if_neg hHas, hClose] at h
    obtain ⟨ps, hText, hNew, hRead⟩ := ih h
    let p : Piece := ⟨bracket, ⟨body, mode⟩⟩
    have hWhole : t = Text.indentation t ++ (p.text ++ after) := by
      conv_lhs => rw [← Text.indentation_append_trimStart t]
      rw [hTrim, text_of_openPiece? hOpen, closeAt_eq_some hClose]
      simp [p, Piece.text]
    have hGap : (Text.indentation t).isBlank = true := List.all_takeWhile
    have hPairs : bracket.Pairs body := balanced_iff_pairs.mp (balanced_of_closeAt hClose)
    have hAbsolute : bracket = .square → mode = .absolute := by
      intro hSquare
      subst hSquare
      exact mode_of_openPiece? hOpen
    have hLater : ∀ q ∈ ps, q.bracket ≠ bracket ∧ found.has q.bracket = false := by
      intro q hq
      have hBoth := hNew q hq
      rw [has_add, Bool.or_eq_false_iff, beq_eq_false_iff_ne] at hBoth
      exact ⟨hBoth.1.symm, hBoth.2⟩
    refine ⟨p :: ps, ?_, ?_, hRead⟩
    · rw [hWhole]
      exact .cons hGap hPairs hAbsolute (fun q hq => (hLater q hq).1) hText
    · exact List.forall_mem_cons.mpr ⟨Bool.not_eq_true _ ▸ hHas, fun q hq => (hLater q hq).2⟩

/-! ## What is read for a kind of bracket -/

/-- What stands in the piece of a kind. Options have no line numbers, so nothing makes them
relative. -/
def source? (s : Suffixes) : Bracket → Option SelectorSource
  | .brace => s.highlight
  | .angle => s.edit
  | .square => s.options.map fun body => ⟨body, .absolute⟩

theorem eq_of_source? {s s' : Suffixes} (h : ∀ b, s.source? b = s'.source? b) : s = s' := by
  obtain ⟨highlight, edit, options⟩ := s
  obtain ⟨highlight', edit', options'⟩ := s'
  have hOptions : options = options' := by
    refine Option.map_injective (f := fun body => (⟨body, .absolute⟩ : SelectorSource)) ?_
      (h .square)
    intro body body' hSame
    exact congrArg SelectorSource.body hSame
  obtain rfl : highlight = highlight' := h .brace
  obtain rfl : edit = edit' := h .angle
  rw [hOptions]

theorem source?_addPiece {s : Suffixes} {p : Piece}
    (hAbsolute : p.bracket = .square → p.source.mode = .absolute) (b : Bracket) :
    (s.addPiece p).source? b = if p.bracket = b then some p.source else s.source? b := by
  obtain ⟨bracket, body, mode⟩ := p
  cases bracket with
  | brace => cases b <;> rfl
  | angle => cases b <;> rfl
  | square =>
    obtain rfl : mode = .absolute := hAbsolute rfl
    cases b <;> rfl

theorem source?_eq_none {s : Suffixes} {b : Bracket} (h : s.has b = false) :
    s.source? b = none := by
  cases b with
  | brace => exact Option.not_isSome_iff_eq_none.mp (Bool.eq_false_iff.mp h)
  | angle => exact Option.not_isSome_iff_eq_none.mp (Bool.eq_false_iff.mp h)
  | square =>
    have hNone : s.options = none := Option.not_isSome_iff_eq_none.mp (Bool.eq_false_iff.mp h)
    rw [source?, hNone]
    rfl

theorem PiecesText.source?_foldl {t : Text} {ps : List Piece} (h : PiecesText t ps)
    {found : Suffixes} (hNew : ∀ p ∈ ps, found.has p.bracket = false) (b : Bracket)
    (source : SelectorSource) :
    (ps.foldl addPiece found).source? b = some source ↔
      found.source? b = some source ∨ ⟨b, source⟩ ∈ ps := by
  induction h generalizing found with
  | nil => simp
  | @cons gap rest p ps _ _ hAbsolute hOther _ ih =>
    have hLater : ∀ q ∈ ps, (found.addPiece p).has q.bracket = false := by
      intro q hq
      exact has_add_of_ne _ (hOther q hq) (hNew q (List.mem_cons_of_mem _ hq))
    have hFound : found.source? p.bracket = none := source?_eq_none (hNew p List.mem_cons_self)
    rw [List.foldl_cons, ih hLater, source?_addPiece hAbsolute, List.mem_cons, ← or_assoc]
    apply or_congr_left
    by_cases hBracket : p.bracket = b
    · subst hBracket
      rw [if_pos rfl, hFound, Option.some.injEq, Piece.mk.injEq]
      simp [eq_comm]
    · rw [if_neg hBracket]
      have hPiece : (⟨b, source⟩ : Piece) ≠ p := fun hSame => hBracket (hSame ▸ rfl)
      simp [hPiece]

/-! ## Texts that are read -/

/-- A text that is made of pieces is read, and each piece is found under its kind. -/
theorem exists_split_of_piecesText {t : Text} {ps : List Piece} (h : PiecesText t ps) :
    ∃ s, split t = .ok s ∧ ∀ b source, s.source? b = some source ↔ ⟨b, source⟩ ∈ ps := by
  have hNew : ∀ p ∈ ps, ({} : Suffixes).has p.bracket = false := fun _ _ => has_empty _
  refine ⟨_, splitFrom_of_piecesText h hNew t, fun b source => ?_⟩
  rw [h.source?_foldl hNew, source?_eq_none (has_empty b)]
  simp

theorem exists_piecesText_of_split {t : Text} {s : Suffixes} (h : split t = .ok s) :
    ∃ ps, PiecesText t ps ∧ ∀ b source, s.source? b = some source ↔ ⟨b, source⟩ ∈ ps := by
  obtain ⟨ps, hText, -, -⟩ := exists_piecesText_of_splitFrom h
  obtain ⟨s', hRead, hSources⟩ := exists_split_of_piecesText hText
  obtain rfl : s = s' := Except.ok.inj (h.symm.trans hRead)
  exact ⟨ps, hText, hSources⟩

/-- What is read is known by what is found under each kind. -/
theorem eq_of_sources {s s' : Suffixes} {ps ps' : List Piece} (hSame : ∀ p, p ∈ ps ↔ p ∈ ps')
    (h : ∀ b source, s.source? b = some source ↔ ⟨b, source⟩ ∈ ps)
    (h' : ∀ b source, s'.source? b = some source ↔ ⟨b, source⟩ ∈ ps') : s = s' := by
  apply eq_of_source?
  intro b
  apply Option.ext
  intro source
  rw [h, h', hSame]

/-- A text is read exactly if it is made of pieces, and then each kind of bracket gives what stands
in its piece; on every other text reading ends with a parse fault. So the order of the pieces does
not count. -/
theorem split_grammar (t : Text) :
    (∀ s, split t = .ok s ↔ ∃ ps, PiecesText t ps ∧
      ∀ b source, s.source? b = some source ↔ ⟨b, source⟩ ∈ ps) ∧
    ((∃ s, split t = .ok s) ↔ ∃ ps, PiecesText t ps) ∧
    ((¬ ∃ ps, PiecesText t ps) → ∃ fault, split t = .error fault ∧ fault.kind = .parse) ∧
    ∀ ps t' ps', PiecesText t ps → PiecesText t' ps' → ps.Perm ps' → split t' = split t := by
  have hReads : (∃ s, split t = .ok s) ↔ ∃ ps, PiecesText t ps := by
    constructor
    · rintro ⟨s, h⟩
      obtain ⟨ps, hText, -⟩ := exists_piecesText_of_split h
      exact ⟨ps, hText⟩
    · rintro ⟨ps, hText⟩
      obtain ⟨s, hRead, -⟩ := exists_split_of_piecesText hText
      exact ⟨s, hRead⟩
  refine ⟨fun s => ⟨exists_piecesText_of_split, ?_⟩, hReads, ?_, ?_⟩
  · rintro ⟨ps, hText, hSources⟩
    obtain ⟨s', hRead, hSources'⟩ := exists_split_of_piecesText hText
    rw [hRead, eq_of_sources (fun _ => Iff.rfl) hSources hSources']
  · intro hNone
    cases hRead : split t with
    | ok s => exact absurd (hReads.mp ⟨s, hRead⟩) hNone
    | error fault => exact ⟨fault, rfl, failsBy_split t fault hRead⟩
  · intro ps t' ps' hText hText' hPerm
    obtain ⟨s, hRead, hSources⟩ := exists_split_of_piecesText hText
    obtain ⟨s', hRead', hSources'⟩ := exists_split_of_piecesText hText'
    rw [hRead, hRead', eq_of_sources (fun p => hPerm.mem_iff) hSources hSources']

/-- Two pieces in either order, one of them with brackets in its text. -/
theorem split_grammar_exchanged :
    PiecesText "\x7ba\x7bb\x7d<\x7d r<x>".toList
      [⟨.brace, ⟨"a\x7bb\x7d<".toList, .absolute⟩⟩, ⟨.angle, ⟨"x".toList, .relative⟩⟩] ∧
    split "r<x>\x7ba\x7bb\x7d<\x7d".toList = split "\x7ba\x7bb\x7d<\x7d r<x>".toList := by
  have hBraces : Bracket.brace.Pairs "a\x7bb\x7d<".toList :=
    balanced_iff_pairs.mp (by simp [Balanced, Bracket.opener, Bracket.closer])
  have hAngles : Bracket.angle.Pairs "x".toList :=
    balanced_iff_pairs.mp (by simp [Balanced, Bracket.opener, Bracket.closer])
  let braces : Piece := ⟨.brace, ⟨"a\x7bb\x7d<".toList, .absolute⟩⟩
  let angles : Piece := ⟨.angle, ⟨"x".toList, .relative⟩⟩
  have hBracesAbsolute : braces.bracket = .square → braces.source.mode = .absolute := fun _ => rfl
  have hAnglesAbsolute : angles.bracket = .square → angles.source.mode = .absolute := by
    intro hSquare
    cases hSquare
  have hText : PiecesText "\x7ba\x7bb\x7d<\x7d r<x>".toList [braces, angles] :=
    @PiecesText.cons [] _ braces _ rfl hBraces hBracesAbsolute (by simp [braces, angles])
      (@PiecesText.cons [' '] _ angles _ rfl hAngles hAnglesAbsolute (List.forall_mem_nil _)
        (@PiecesText.nil [] rfl))
  have hText' : PiecesText "r<x>\x7ba\x7bb\x7d<\x7d".toList [angles, braces] :=
    @PiecesText.cons [] _ angles _ rfl hAngles hAnglesAbsolute (by simp [braces, angles])
      (@PiecesText.cons [] _ braces _ rfl hBraces hBracesAbsolute (List.forall_mem_nil _)
        (@PiecesText.nil [] rfl))
  exact ⟨hText, (split_grammar _).2.2.2 _ _ _ hText hText' (List.Perm.swap _ _ _)⟩

end Suffixes

end Excerpt
