import Excerpt.Command.Suffixes
import Excerpt.Proofs.Selector.Numbers
import Mathlib.Data.List.Nodup

/-!
# Taking suffixes apart

What is read behind a command, one piece at a time. Pieces that are written one behind the other, in
any order and with blanks in front of them, are read back; what is read can be written so.

* `Suffixes.splitFrom_eq`: the next piece, and the pieces behind it.
* `Suffixes.failsBy_split`: the faults of a text behind a command.
* `Suffixes.split_textOf`: pieces in writing are read back.
* `Suffixes.isWritable_of_split`: what is read can be written.
-/

namespace Excerpt

namespace Suffixes

theorem splitFrom_eq (whole : Text) (found : Suffixes) (t : Text) :
    splitFrom whole found t =
      match Text.trimStart t with
      | [] => .ok found
      | c :: rest =>
        match openPiece? (c :: rest) with
        | none => .error (.textBehindCommand (c :: rest))
        | some (mode, bracket, inner) =>
          if found.has bracket then .error (.repeatedBracket bracket whole)
          else match closeAt bracket 0 inner with
            | none => .error (.unbalancedBracket bracket (bracket.opener :: inner))
            | some (body, after) => splitFrom whole (found.add bracket ⟨body, mode⟩) after := by
  rw [splitFrom]
  split
  · rename_i hTrim
    rw [hTrim]
  · rename_i c rest hTrim
    rw [hTrim]
    dsimp only
    split
    · rename_i hOpen
      rw [hOpen]
    · rename_i mode bracket inner hOpen
      rw [hOpen]
      dsimp only
      split
      · rfl
      · split
        · rename_i hClose
          rw [hClose]
        · rename_i hClose
          rw [hClose]

theorem failsBy_splitFrom (whole : Text) (found : Suffixes) (t : Text) :
    FailsBy (·.kind = .parse) (splitFrom whole found t) := by
  induction found, t using splitFrom.induct with
  | case1 found t hTrim =>
    rw [splitFrom_eq]
    simp only [hTrim]
    exact failsBy_ok _
  | case2 found t c rest hTrim hOpen =>
    rw [splitFrom_eq]
    simp only [hTrim, hOpen]
    exact failsBy_error rfl
  | case3 found t c rest hTrim mode bracket inner hOpen hHas =>
    rw [splitFrom_eq]
    simp only [hTrim, hOpen, if_pos hHas]
    exact failsBy_error rfl
  | case4 found t c rest hTrim mode bracket inner hOpen hHas hClose =>
    rw [splitFrom_eq]
    simp only [hTrim, hOpen, if_neg hHas, hClose]
    exact failsBy_error rfl
  | case5 found t c rest hTrim mode bracket inner hOpen hHas body after hClose ih =>
    rw [splitFrom_eq]
    simp only [hTrim, hOpen, if_neg hHas, hClose]
    exact ih

theorem failsBy_split (t : Text) : FailsBy (·.kind = .parse) (split t) := failsBy_splitFrom t {} t

/-! ## Pieces as they are written -/

/-- A piece in brackets. -/
structure Piece where
  bracket : Bracket
  source : SelectorSource
  deriving DecidableEq, Repr

/-- The pieces that are there. Options have no line numbers, so nothing makes them relative. -/
def pieces (s : Suffixes) : List Piece :=
  s.highlight.toList.map (Piece.mk .brace ·) ++ s.edit.toList.map (Piece.mk .angle ·) ++
    s.options.toList.map fun body => ⟨.square, ⟨body, .absolute⟩⟩

/-- The mark of a relative piece. -/
def markOf : Addressing → Text
  | .absolute => []
  | .relative => ['r']

namespace Piece

/-- The piece with its brackets. -/
def text (p : Piece) : Text :=
  markOf p.source.mode ++ p.bracket.opener :: (p.source.body ++ [p.bracket.closer])

/-- Whether a piece can be written in its brackets on one line. -/
structure IsWritable (p : Piece) : Prop where
  balanced : Balanced p.bracket 0 p.source.body
  oneLine : '\n' ∉ p.source.body
  absolute : p.bracket = .square → p.source.mode = .absolute

/-- Whether a piece can be written in its brackets, on one line or on several. -/
structure IsClosed (p : Piece) : Prop where
  balanced : Balanced p.bracket 0 p.source.body
  absolute : p.bracket = .square → p.source.mode = .absolute

theorem IsWritable.isClosed {p : Piece} (h : p.IsWritable) : p.IsClosed :=
  ⟨h.balanced, h.absolute⟩

end Piece

/-- What is written for pieces, each behind a gap. -/
def textOf (placed : List (Text × Piece)) : Text :=
  placed.flatMap fun (gap, piece) => gap ++ piece.text

theorem getLast?_textOf {placed : List (Text × Piece)} {c : Char}
    (h : c ∈ (textOf placed).getLast?) : c ≠ '\r' ∧ c ≠ '\n' := by
  rcases List.eq_nil_or_concat' placed with rfl | ⟨front, ⟨gap, piece⟩, rfl⟩
  · cases h
  · have hText : textOf (front ++ [(gap, piece)]) =
        textOf front ++ (gap ++ (markOf piece.source.mode ++
          piece.bracket.opener :: piece.source.body)) ++ [piece.bracket.closer] := by
      simp [textOf, Piece.text]
    rw [hText, List.getLast?_concat] at h
    cases h
    cases piece.bracket <;> decide

theorem Piece.not_mem_text {p : Piece} (h : p.IsWritable) : '\n' ∉ p.text := by
  obtain ⟨bracket, body, mode⟩ := p
  have hBody := h.oneLine
  cases bracket <;> cases mode <;>
    simpa [Piece.text, markOf, Bracket.opener, Bracket.closer] using hBody

theorem not_mem_textOf {placed : List (Text × Piece)} (hGap : ∀ x ∈ placed, '\n' ∉ x.1)
    (hPiece : ∀ x ∈ placed, x.2.IsWritable) : '\n' ∉ textOf placed := by
  intro hFeed
  obtain ⟨x, hx, hFeed⟩ := List.mem_flatMap.mp hFeed
  rcases List.mem_append.mp hFeed with hFeed | hFeed
  · exact hGap x hx hFeed
  · exact Piece.not_mem_text (hPiece x hx) hFeed

/-! ## Reading what is written -/

theorem closeAt_of_balanced {bracket : Bracket} {depth : Nat} {body : Text}
    (h : Balanced bracket depth body) (after : Text) :
    closeAt bracket depth (body ++ bracket.closer :: after) = some (body, after) := by
  have hCloser : bracket.closer ≠ bracket.opener := (bracket.opener_ne_closer bracket).symm
  induction body generalizing depth with
  | nil =>
    obtain rfl : depth = 0 := h
    simp [closeAt, hCloser]
  | cons c rest ih =>
    rw [List.cons_append]
    unfold closeAt
    rw [Balanced] at h
    by_cases hOpen : c = bracket.opener
    · rw [if_pos hOpen] at h ⊢
      rw [ih h]
      rfl
    · by_cases hClose : c = bracket.closer
      · rw [if_neg hOpen, if_pos hClose] at h ⊢
        obtain ⟨n, rfl, hRest⟩ := h
        dsimp only
        rw [ih hRest]
        rfl
      · rw [if_neg hOpen, if_neg hClose] at h ⊢
        rw [ih h]
        rfl

theorem openPiece?_text {p : Piece} (h : p.IsClosed) (after : Text) :
    openPiece? (p.text ++ after) =
      some (p.source.mode, p.bracket, p.source.body ++ p.bracket.closer :: after) := by
  obtain ⟨bracket, body, mode⟩ := p
  cases mode with
  | absolute =>
    cases bracket <;>
      simp [Piece.text, markOf, openPiece?, Bracket.opener, Bracket.ofOpener?]
  | relative =>
    cases bracket with
    | brace => simp [Piece.text, markOf, openPiece?, Bracket.opener]
    | angle => simp [Piece.text, markOf, openPiece?, Bracket.opener]
    | square => cases h.absolute rfl

theorem trimStart_text {gap : Text} (hGap : gap.isBlank = true) (p : Piece) (after : Text) :
    Text.trimStart (gap ++ (p.text ++ after)) = p.text ++ after := by
  rw [Text.trimStart_append_of_isBlank hGap]
  obtain ⟨bracket, body, mode⟩ := p
  have hOpener : isBlank bracket.opener = false := by cases bracket <;> decide
  cases mode with
  | absolute =>
    exact List.dropWhile_cons_of_neg (by simp [hOpener])
  | relative =>
    exact List.dropWhile_cons_of_neg (by decide)

theorem splitFrom_of_isBlank {t : Text} (h : t.isBlank = true) (whole : Text) (found : Suffixes) :
    splitFrom whole found t = .ok found := by
  rw [splitFrom_eq, Text.trimStart_eq_nil_iff.mpr h]

/-- The next piece is read from what is written for it, if it is the first of its kind. -/
theorem splitFrom_text_eq {gap : Text} (hGap : gap.isBlank = true) {p : Piece} (h : p.IsClosed)
    (whole : Text) (found : Suffixes) (after : Text) :
    splitFrom whole found (gap ++ (p.text ++ after)) =
      if found.has p.bracket then .error (.repeatedBracket p.bracket whole)
      else splitFrom whole (found.add p.bracket p.source) after := by
  have hOpen := openPiece?_text h after
  rw [splitFrom_eq, trimStart_text hGap]
  cases hText : p.text ++ after with
  | nil =>
    rw [hText] at hOpen
    cases hOpen
  | cons c rest =>
    rw [hText] at hOpen
    simp only [hOpen, closeAt_of_balanced h.balanced after]

theorem splitFrom_text {gap : Text} (hGap : gap.isBlank = true) {p : Piece} (h : p.IsClosed)
    {found : Suffixes} (hNew : found.has p.bracket = false) (whole after : Text) :
    splitFrom whole found (gap ++ (p.text ++ after)) =
      splitFrom whole (found.add p.bracket p.source) after := by
  rw [splitFrom_text_eq hGap h, if_neg (by simp [hNew])]

theorem has_add (s : Suffixes) (bracket other : Bracket) (source : SelectorSource) :
    (s.add bracket source).has other = (bracket == other || s.has other) := by
  cases bracket <;> cases other <;> rfl

theorem has_add_of_ne {s : Suffixes} {bracket other : Bracket} (source : SelectorSource)
    (hOther : other ≠ bracket) (hNew : s.has other = false) :
    (s.add bracket source).has other = false := by
  rw [has_add, hNew, beq_eq_false_iff_ne.mpr hOther.symm]
  rfl

theorem has_empty (bracket : Bracket) : ({} : Suffixes).has bracket = false := by
  cases bracket <;> rfl

/-- The suffixes with one piece more. -/
def addPiece (s : Suffixes) (p : Piece) : Suffixes := s.add p.bracket p.source

/-- All pieces are read from what is written for them, in the order in which they stand. -/
theorem splitFrom_textOf {placed : List (Text × Piece)}
    (hGap : ∀ x ∈ placed, x.1.isBlank = true) (hPiece : ∀ x ∈ placed, x.2.IsClosed)
    (hApart : (placed.map fun x => x.2.bracket).Nodup) {found : Suffixes}
    (hNew : ∀ x ∈ placed, found.has x.2.bracket = false) {trailing : Text}
    (hTrailing : trailing.isBlank = true) (whole : Text) :
    splitFrom whole found (textOf placed ++ trailing) =
      .ok ((placed.map Prod.snd).foldl addPiece found) := by
  induction placed generalizing found with
  | nil =>
    rw [textOf, List.flatMap_nil, List.nil_append, splitFrom_of_isBlank hTrailing]
    rfl
  | cons x rest ih =>
    obtain ⟨gap, piece⟩ := x
    have hText : textOf ((gap, piece) :: rest) ++ trailing =
        gap ++ (piece.text ++ (textOf rest ++ trailing)) := by
      simp [textOf]
    obtain ⟨hFirst, hRest⟩ := List.nodup_cons.mp hApart
    rw [hText, splitFrom_text (hGap _ List.mem_cons_self) (hPiece _ List.mem_cons_self)
      (hNew _ List.mem_cons_self)]
    refine ih (fun x hx => hGap x (List.mem_cons_of_mem _ hx))
      (fun x hx => hPiece x (List.mem_cons_of_mem _ hx)) hRest fun x hx => ?_
    have hOther : x.2.bracket ≠ piece.bracket :=
      fun hEq => hFirst (List.mem_map.mpr ⟨x, hx, hEq⟩)
    exact has_add_of_ne _ hOther (hNew x (List.mem_cons_of_mem _ hx))

theorem foldl_pieces (s : Suffixes) : s.pieces.foldl addPiece {} = s := by
  obtain ⟨highlight, edit, options⟩ := s
  cases highlight <;> cases edit <;> cases options <;> rfl

theorem nodup_pieces (s : Suffixes) : (s.pieces.map Piece.bracket).Nodup := by
  obtain ⟨highlight, edit, options⟩ := s
  cases highlight <;> cases edit <;> cases options <;> simp [pieces]

/-- The order of the pieces does not count. -/
theorem foldl_of_perm {ps : List Piece} {s : Suffixes} (h : ps.Perm s.pieces) :
    ps.foldl addPiece {} = s := by
  rw [← foldl_pieces s]
  refine h.foldl_eq' ?_ _
  intro p hp q hq found
  by_cases hSame : p.bracket = q.bracket
  · have hEq : p = q := List.inj_on_of_nodup_map (nodup_pieces s) (h.mem_iff.mp hp)
      (h.mem_iff.mp hq) hSame
    rw [hEq]
  · obtain ⟨b, source⟩ := p
    obtain ⟨b', source'⟩ := q
    cases b <;> cases b' <;> first | rfl | exact absurd rfl hSame

theorem split_textOf {placed : List (Text × Piece)} {s : Suffixes}
    (hPerm : (placed.map Prod.snd).Perm s.pieces) (hPieces : ∀ p ∈ s.pieces, p.IsWritable)
    (hGap : ∀ x ∈ placed, x.1.isBlank = true) {trailing : Text}
    (hTrailing : trailing.isBlank = true) : split (textOf placed ++ trailing) = .ok s := by
  have hPiece : ∀ x ∈ placed, x.2.IsClosed :=
    fun x hx => (hPieces x.2 (hPerm.mem_iff.mp (List.mem_map_of_mem hx))).isClosed
  have hApart : (placed.map fun x => x.2.bracket).Nodup := by
    have hNodup := (hPerm.map Piece.bracket).nodup_iff.mpr (nodup_pieces s)
    rwa [List.map_map] at hNodup
  have hNew : ∀ x ∈ placed, ({} : Suffixes).has x.2.bracket = false := fun _ _ => has_empty _
  have hSplit := splitFrom_textOf hGap hPiece hApart hNew hTrailing (textOf placed ++ trailing)
  rw [foldl_of_perm hPerm] at hSplit
  exact hSplit

/-! ## What can be read -/

theorem mode_of_openPiece? {t rest : Text} {mode : Addressing}
    (h : openPiece? t = some (mode, .square, rest)) : mode = .absolute := by
  unfold openPiece? at h
  split at h
  · cases h
  · cases h
  · obtain ⟨b, -, hEq⟩ := Option.map_eq_some_iff.mp h
    cases hEq
    rfl
  · cases h

theorem mem_pieces_add {s : Suffixes} {bracket : Bracket} {source : SelectorSource} {p : Piece}
    (hMode : bracket = .square → source.mode = .absolute)
    (h : p ∈ (s.add bracket source).pieces) : p ∈ s.pieces ∨ p = ⟨bracket, source⟩ := by
  obtain ⟨body, mode⟩ := source
  simp only [pieces, List.mem_append, List.mem_map, Option.mem_toList] at h ⊢
  cases bracket with
  | brace =>
    obtain (⟨_, ⟨⟩, rfl⟩ | h) | h := h
    · exact .inr rfl
    · exact .inl (.inl (.inr h))
    · exact .inl (.inr h)
  | angle =>
    obtain (h | ⟨_, ⟨⟩, rfl⟩) | h := h
    · exact .inl (.inl (.inl h))
    · exact .inr rfl
    · exact .inl (.inr h)
  | square =>
    obtain h | ⟨_, ⟨⟩, rfl⟩ := h
    · exact .inl (.inl h)
    · obtain rfl : mode = .absolute := hMode rfl
      exact .inr rfl

theorem suffix_of_openPiece? {t rest : Text} {mode : Addressing} {bracket : Bracket}
    (h : openPiece? t = some (mode, bracket, rest)) : rest <:+ t := by
  unfold openPiece? at h
  split at h
  · cases h
    exact (List.suffix_cons _ _).trans (List.suffix_cons _ _)
  · cases h
    exact (List.suffix_cons _ _).trans (List.suffix_cons _ _)
  · obtain ⟨b, -, hEq⟩ := Option.map_eq_some_iff.mp h
    cases hEq
    exact List.suffix_cons _ _
  · cases h

/-- The text of a piece and what stands behind it are parts of the text. -/
theorem parts_of_piece {t rest body after : Text} {c : Char} {mode : Addressing}
    {bracket : Bracket} {inner : Text} (hTrim : Text.trimStart t = c :: rest)
    (hOpen : openPiece? (c :: rest) = some (mode, bracket, inner))
    (hClose : closeAt bracket 0 inner = some (body, after)) : body <:+: t ∧ after <:+ t := by
  have hInner := suffix_of_openPiece? hOpen
  have hAll : inner <:+ t := hInner.trans (hTrim ▸ List.dropWhile_suffix _)
  have hParts := closeAt_eq_some hClose
  constructor
  · exact List.IsInfix.trans ⟨[], bracket.closer :: after, by rw [hParts]; rfl⟩ hAll.isInfix
  · exact List.IsSuffix.trans ⟨body ++ [bracket.closer], by rw [hParts]; simp⟩ hAll

/-- A piece that is read was there before, or it is taken from the text, with its bracket
balanced. -/
theorem pieces_of_splitFrom {whole : Text} {found : Suffixes} {t : Text} {s : Suffixes}
    (h : splitFrom whole found t = .ok s) {p : Piece} (hp : p ∈ s.pieces) :
    p ∈ found.pieces ∨ p.source.body <:+: t ∧ Balanced p.bracket 0 p.source.body ∧
      (p.bracket = .square → p.source.mode = .absolute) := by
  induction found, t using splitFrom.induct with
  | case1 found t hTrim =>
    rw [splitFrom_eq] at h
    simp only [hTrim] at h
    cases h
    exact .inl hp
  | case2 found t c rest hTrim hOpen =>
    rw [splitFrom_eq] at h
    simp only [hTrim, hOpen] at h
    cases h
  | case3 found t c rest hTrim mode bracket inner hOpen hHas =>
    rw [splitFrom_eq] at h
    simp only [hTrim, hOpen, if_pos hHas] at h
    cases h
  | case4 found t c rest hTrim mode bracket inner hOpen hHas hClose =>
    rw [splitFrom_eq] at h
    simp only [hTrim, hOpen, if_neg hHas, hClose] at h
    cases h
  | case5 found t c rest hTrim mode bracket inner hOpen hHas body after hClose ih =>
    rw [splitFrom_eq] at h
    simp only [hTrim, hOpen, if_neg hHas, hClose] at h
    obtain ⟨hBody, hAfter⟩ := parts_of_piece hTrim hOpen hClose
    have hMode : bracket = .square → mode = .absolute := by
      rintro rfl
      exact mode_of_openPiece? hOpen
    rcases ih h with hOld | ⟨hInfix, hRest⟩
    · rcases mem_pieces_add hMode hOld with hOld | rfl
      · exact .inl hOld
      · exact .inr ⟨hBody, balanced_of_closeAt hClose, hMode⟩
    · exact .inr ⟨hInfix.trans hAfter.isInfix, hRest⟩

/-- What stands in brackets stands in the text. -/
theorem infix_of_split {t : Text} {s : Suffixes} (h : split t = .ok s) {p : Piece}
    (hp : p ∈ s.pieces) : p.source.body <:+: t := by
  rcases pieces_of_splitFrom h hp with hNone | ⟨hInfix, -⟩
  · cases hNone
  · exact hInfix

/-- Whatever can be read in pieces can be written in pieces. -/
theorem isWritable_of_split {t : Text} {s : Suffixes} (h : split t = .ok s) (hLine : '\n' ∉ t) :
    ∀ p ∈ s.pieces, p.IsWritable := by
  intro p hp
  rcases pieces_of_splitFrom h hp with hNone | ⟨hInfix, hBalanced, hAbsolute⟩
  · cases hNone
  · exact ⟨hBalanced, fun hFeed => hLine (hInfix.mem hFeed), hAbsolute⟩

end Suffixes

end Excerpt
