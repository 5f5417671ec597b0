import Excerpt.Main.Handler
import Excerpt.Main.Picture
import Excerpt.Main.Screen
import Excerpt.Main.Style

/-!
# Markup

A text in which styles are opened and closed by tags in square brackets, and pictures are called by
their names between colons. A console without colours shows it without its tags. A backslash in
front of a tag makes it a text, two are one backslash. A tag may stay open, but what is closed must
have been opened: a closing tag with a name closes the last tag that is open under this name, one
without a name the last of all. Names are compared in the normal form of styles. A handler is
called when its tag is closed, and the style of a tag is looked at once more when the text between
its ends is shown. A name of a picture does not reach over a tag.

* `written_pieces`: a text is taken apart without loss.
* `render_of_no_bracket`: a text without an opening bracket is shown with its pictures.
* `render_of_plain`: a text without a colon and such a bracket is shown as it is.
* `exists_render_closing_error`: a tag that was not opened cannot be closed.
-/

namespace Excerpt

/-- Why a text cannot be shown: a closing tag at the position, counted from zero, for which no tag
is open under the name that is sought, a handler that cannot be called, or a colour that cannot be
looked at. -/
inductive MarkupError where
  | unmatched (name : Text) (parameters : Option Text) (position : Nat) (sought : Text)
  | nothingOpen (position : Nat)
  | handler (e : HandlerError)
  | color (e : ColorError)
  deriving DecidableEq, Repr

namespace Markup

/-! ## Parts of a text -/

/-- Whether a bracket in front of the character opens a tag. -/
def opensTag (c : Char) : Bool :=
  ('a' ≤ c && c ≤ 'z') || c == '#' || c == '/' || c == '@'

/-- Whether the character can stand inside a tag. -/
def isInside (c : Char) : Bool := c != '[' && c != ']'

/-- The inside of the tag that a text begins with, and what stands behind the tag. -/
def tagAt? : Text → Option (Text × Text)
  | '[' :: c :: rest =>
    if opensTag c then
      match rest.dropWhile isInside with
      | ']' :: behind => some (c :: rest.takeWhile isInside, behind)
      | _ => none
    else none
  | _ => none

/-- A part of a text: one character, a bracket that opens no tag behind a backslash, or a tag with
the backslashes in front of it. -/
inductive Piece where
  | plain (c : Char)
  | bracket
  | tag (backslashes : Nat) (inside : Text)
  deriving DecidableEq, Repr

/-- The text of a part. -/
def Piece.written : Piece → Text
  | .plain c => [c]
  | .bracket => ['\\', '[']
  | .tag backslashes inside => List.replicate backslashes '\\' ++ '[' :: inside ++ [']']

/-- The character that a text begins with, if no tag stands there. -/
def plainAt? : Text → Option (Piece × Text)
  | [] => none
  | '\\' :: '[' :: rest => some (.bracket, rest)
  | c :: rest => some (.plain c, rest)

/-- The part that a text begins with, and what stands behind it. -/
def pieceAt? (t : Text) : Option (Piece × Text) :=
  let backslashes := (t.takeWhile (· == '\\')).length
  match tagAt? (t.drop backslashes) with
  | some (inside, behind) => some (.tag backslashes inside, behind)
  | none => plainAt? t

theorem eq_of_tagAt? {t inside behind : Text} (h : tagAt? t = some (inside, behind)) :
    t = '[' :: inside ++ ']' :: behind := by
  unfold tagAt? at h
  split at h
  · rename_i c rest
    split at h
    · split at h
      · rename_i behind' hd
        cases h
        simpa [hd] using (List.takeWhile_append_dropWhile (p := isInside) (l := rest)).symm
      · cases h
    · cases h
  · cases h

theorem takeWhile_backslash (t : Text) :
    t.takeWhile (· == '\\') = List.replicate (t.takeWhile (· == '\\')).length '\\' := by
  induction t with
  | nil => rfl
  | cons c rest ih =>
    by_cases hc : c = '\\'
    · subst hc
      simpa [List.replicate_succ] using ih
    · simp [hc]

theorem eq_of_pieceAt? {t rest : Text} {piece : Piece} (h : pieceAt? t = some (piece, rest)) :
    t = piece.written ++ rest := by
  unfold pieceAt? at h
  simp only at h
  split at h
  · rename_i inside behind hTag
    cases h
    have hFront := List.takeWhile_append_dropWhile (p := (· == '\\')) (l := t)
    have hDrop : (t.takeWhile (· == '\\') ++ t.dropWhile (· == '\\')).drop
        (t.takeWhile (· == '\\')).length = t.dropWhile (· == '\\') := List.drop_left
    rw [hFront] at hDrop
    rw [← hDrop, eq_of_tagAt? hTag, takeWhile_backslash] at hFront
    simpa [Piece.written] using hFront.symm
  · unfold plainAt? at h
    split at h <;> cases h <;> rfl

theorem length_written_pos (piece : Piece) : 0 < piece.written.length := by
  cases piece <;>
    simp only [Piece.written, List.length_append, List.length_cons, List.length_nil] <;> omega

set_option linter.unusedVariables false in
/-- The parts of a text. -/
def pieces (t : Text) : List Piece :=
  match h : pieceAt? t with
  | none => []
  | some (piece, rest) => piece :: pieces rest
termination_by t.length
decreasing_by
  have hPos := length_written_pos piece
  rw [eq_of_pieceAt? h, List.length_append]
  omega

/-! ## Tags -/

/-- A tag that is open: its name in normal form, its parameters, and how many characters are shown
before it. -/
structure OpenTag where
  name : Text
  parameters : Option Text
  start : Nat
  deriving DecidableEq, Repr

namespace OpenTag

/-- Whether the tag calls a handler. -/
def isHandler (tag : OpenTag) : Bool := tag.name.head? == some '@'

/-- The style of the tag: its name, and its parameters behind a space. -/
def style (tag : OpenTag) : Text :=
  match tag.parameters with
  | none => tag.name
  | some parameters => tag.name ++ ' ' :: parameters

end OpenTag

/-- A part of what is shown, from one number of characters to another, and its style. -/
structure Span where
  first : Nat
  last : Nat
  style : Text
  deriving DecidableEq, Repr

namespace Span

/-- Whether the style is looked at when the text is shown. A text of one line without tabs is shown
as a whole; else every line is shown for itself, and a span needs a character in it. -/
def isShown (span : Span) (t : Text) : Bool :=
  !(t.contains '\n' || t.contains '\t') ||
    ((t.drop span.first).take (span.last - span.first)).any (· != '\n')

/-- The reason why the style cannot be looked at. -/
def error? (span : Span) : Option ColorError :=
  match Style.read span.style with
  | .error (.color e) => some e
  | _ => none

end Span

/-- The reason why the first of the spans, in the order of their beginnings, cannot be shown. -/
def spanError? (t : Text) (spans : List Span) : Option ColorError :=
  ((spans.mergeSort fun a b => a.first ≤ b.first).filter (·.isShown t)).findSome? Span.error?

/-! ## Showing -/

/-- A console between two parts: how much of the text it has taken, the tags that are open, the
last first, the spans of those that were closed, the last first, the characters since the last tag,
and what it has shown before them. The newest character is first. -/
structure State where
  taken : Nat := 0
  opened : List OpenTag := []
  spans : List Span := []
  run : Text := []
  shown : Text := []

namespace State

/-- Shows the characters since the last tag, and the given text behind them. -/
def settle (s : State) (behind : Text) : State :=
  { s with
    run := []
    shown := behind.reverse ++ ((Picture.replaced s.run.reverse).reverse ++ s.shown) }

/-- Everything that is shown once the characters since the last tag are. -/
def text (s : State) : Text := (s.settle []).shown.reverse

/-- How many characters are shown before the characters since the last tag. -/
def count (s : State) : Nat := s.shown.countP fun c => !Screen.isCursorMove c

/-- Opens a tag. -/
def openTag (s : State) (name : Text) (parameters : Option Text) : Except MarkupError State :=
  match Style.normalForm name with
  | .error e => .error (.color e)
  | .ok normal => .ok { s with opened := ⟨normal, parameters, s.count⟩ :: s.opened }

/-- Closes a tag, and calls its handler if it has one. -/
def closeTag (s : State) (tag : OpenTag) : Except MarkupError State :=
  let rest := s.opened.erase tag
  if tag.isHandler then
    match Handler.check (tag.parameters.getD []) with
    | .error e => .error (.handler e)
    | .ok () => .ok { s with opened := rest }
  else .ok { s with opened := rest, spans := ⟨tag.start, s.count, tag.style⟩ :: s.spans }

/-- Opens a tag, or closes one if the name begins with a slash. -/
def follow (s : State) (position : Nat) (name : Text) (parameters : Option Text) :
    Except MarkupError State :=
  match name with
  | '/' :: style =>
    if Text.isBlank style then
      match s.opened with
      | [] => .error (.nothingOpen position)
      | tag :: _ => s.closeTag tag
    else match Style.normalForm (Text.trim style) with
      | .error e => .error (.color e)
      | .ok sought =>
        match s.opened.find? (·.name = sought) with
        | some tag => s.closeTag tag
        | none => .error (.unmatched name parameters position sought)
  | _ => s.openTag name parameters

/-- Takes one part. -/
def take (s : State) (piece : Piece) : Except MarkupError State :=
  let taken := s.taken + piece.written.length
  match piece with
  | .plain c => .ok { s with taken, run := c :: s.run }
  | .bracket => .ok { s with taken, run := '[' :: s.run }
  | .tag backslashes inside =>
    let half := List.replicate (backslashes / 2) '\\'
    if backslashes % 2 = 1 then
      .ok ({ s with taken }.settle (half ++ Picture.replaced ('[' :: inside ++ [']'])))
    else match Text.cut '=' inside with
      | some (name, parameters) =>
        ({ s with taken }.settle half).follow (s.taken + backslashes) name (some parameters)
      | none => ({ s with taken }.settle half).follow (s.taken + backslashes) inside none

/-- The spans of the whole text, the last first: a tag that has stayed open reaches to the end. -/
def allSpans (s : State) : List Span :=
  let s := s.settle []
  (s.opened.map fun tag => ⟨tag.start, s.count, tag.style⟩).reverse ++ s.spans

/-- What has been shown, unless a style cannot be looked at. -/
def finish (s : State) : Except MarkupError Text :=
  match spanError? (s.text.filter fun c => !Screen.isCursorMove c) s.allSpans with
  | some e => .error (.color e)
  | none => .ok s.text

end State

/-- What a console shows of a text with markup. -/
def render (t : Text) : Except MarkupError Text :=
  (pieces t).foldlM State.take {} >>= State.finish

/-! ## Laws -/

theorem written_pieces (t : Text) : (pieces t).flatMap Piece.written = t := by
  induction t using pieces.induct with
  | case1 t h =>
    rw [pieces]
    split
    · unfold pieceAt? at h
      simp only at h
      split at h
      · cases h
      · unfold plainAt? at h
        split at h
        · rfl
        · cases h
        · cases h
    · rename_i hSome
      rw [h] at hSome
      cases hSome
  | case2 t piece rest h ih =>
    rw [pieces]
    split
    · rename_i hNone
      rw [h] at hNone
      cases hNone
    · rename_i piece' rest' hSome
      rw [h] at hSome
      cases hSome
      rw [List.flatMap_cons, ih, ← eq_of_pieceAt? h]

theorem pieces_of_pieceAt? {t rest : Text} {piece : Piece} (h : pieceAt? t = some (piece, rest)) :
    pieces t = piece :: pieces rest := by
  rw [pieces]
  split
  · rename_i hNone
    rw [h] at hNone
    cases hNone
  · rename_i hSome
    rw [h] at hSome
    cases hSome
    rfl

/-- A character where no tag stands is a part by itself. -/
theorem pieces_cons_of_no_tag {c : Char} {rest : Text}
    (hTag : tagAt? ((c :: rest).drop ((c :: rest).takeWhile (· == '\\')).length) = none)
    (hBracket : ∀ behind, c :: rest ≠ '\\' :: '[' :: behind) :
    pieces (c :: rest) = .plain c :: pieces rest := by
  apply pieces_of_pieceAt?
  unfold pieceAt?
  simp only [hTag]
  unfold plainAt?
  split
  · rename_i hEq
    cases hEq
  · rename_i behind hEq
    exact absurd hEq (hBracket behind)
  · rename_i hEq
    cases hEq
    rfl

theorem tagAt?_of_no_bracket {t : Text} (h : t.head? ≠ some '[') : tagAt? t = none := by
  unfold tagAt?
  split
  · exact absurd rfl h
  · rfl

theorem pieces_cons_of_no_bracket {c : Char} {rest : Text} (h : '[' ∉ c :: rest) :
    pieces (c :: rest) = .plain c :: pieces rest := by
  refine pieces_cons_of_no_tag (tagAt?_of_no_bracket fun hHead => ?_) ?_
  · exact h (List.mem_of_mem_drop (List.mem_of_mem_head? hHead))
  · rintro behind hEq
    exact h (hEq ▸ by simp)

/-- Without backslashes a character is a part by itself whatever stands behind it. -/
theorem pieces_append {before : Text} (hBracket : '[' ∉ before) (hBackslash : '\\' ∉ before)
    (rest : Text) : pieces (before ++ rest) = before.map .plain ++ pieces rest := by
  induction before with
  | nil => rfl
  | cons c before ih =>
    obtain ⟨hc, hBracket⟩ := List.ne_and_not_mem_of_not_mem_cons hBracket
    obtain ⟨hc', hBackslash⟩ := List.ne_and_not_mem_of_not_mem_cons hBackslash
    have hPlain : pieces (c :: (before ++ rest)) = .plain c :: pieces (before ++ rest) := by
      refine pieces_cons_of_no_tag (tagAt?_of_no_bracket ?_) ?_
      · rw [List.takeWhile_cons_of_neg (by simpa using hc'.symm)]
        simpa using hc.symm
      · rintro behind hEq
        exact hc' (List.cons.inj hEq).1.symm
    rw [List.cons_append, hPlain, ih hBracket hBackslash]
    rfl

theorem pieces_of_no_bracket {t : Text} (h : '[' ∉ t) : pieces t = t.map .plain := by
  induction t with
  | nil =>
    rw [pieces]
    rfl
  | cons c rest ih =>
    rw [pieces_cons_of_no_bracket h, ih fun hm => h (List.mem_cons_of_mem _ hm)]
    rfl

theorem foldlM_take_plain (t : Text) (s : State) :
    (t.map Piece.plain).foldlM State.take s =
      .ok { s with taken := s.taken + t.length, run := t.reverse ++ s.run } := by
  induction t generalizing s with
  | nil => rfl
  | cons c rest ih =>
    have hTake : s.take (.plain c) = .ok { s with taken := s.taken + 1, run := c :: s.run } := rfl
    rw [List.map_cons, List.foldlM_cons, hTake]
    change List.foldlM State.take _ (rest.map Piece.plain) = _
    rw [ih]
    simp only [List.length_cons, List.reverse_cons, List.append_assoc, List.singleton_append,
      Nat.add_assoc, Nat.add_comm 1]

theorem render_of_no_bracket {t : Text} (h : '[' ∉ t) : render t = .ok (Picture.replaced t) := by
  rw [render, pieces_of_no_bracket h, foldlM_take_plain]
  simp [bind, Except.bind, State.finish, State.allSpans, spanError?, State.text, State.settle]

theorem render_of_plain {t : Text} (hBracket : '[' ∉ t) (hColon : ':' ∉ t) : render t = .ok t := by
  rw [render_of_no_bracket hBracket, Picture.replaced_of_no_colon hColon]

/-! ## Closing tags -/

theorem pieces_closing {name : Text} (hBracket : '[' ∉ name) (hEnd : ']' ∉ name) (after : Text) :
    pieces ('[' :: '/' :: name ++ ']' :: after) = .tag 0 ('/' :: name) :: pieces after := by
  have hInside : ∀ c ∈ name, isInside c = true := by
    intro c hc
    have hBracket' : c ≠ '[' := fun hEq => hBracket (hEq ▸ hc)
    have hEnd' : c ≠ ']' := fun hEq => hEnd (hEq ▸ hc)
    simp [isInside, hBracket', hEnd']
  have hTag : tagAt? ('[' :: '/' :: (name ++ ']' :: after)) = some ('/' :: name, after) := by
    rw [tagAt?, if_pos (by decide), List.dropWhile_append_of_pos hInside,
      List.takeWhile_append_of_pos hInside]
    simp [isInside]
  apply pieces_of_pieceAt?
  change (match tagAt? ('[' :: '/' :: (name ++ ']' :: after)) with
    | some (inside, behind) => some (Piece.tag 0 inside, behind)
    | none => plainAt? ('[' :: '/' :: (name ++ ']' :: after))) = _
  rw [hTag]

/-- Nothing can be closed where no tag is open. -/
theorem State.exists_follow_error {s : State} (h : s.opened = []) (position : Nat) (style : Text)
    (parameters : Option Text) : ∃ e, s.follow position ('/' :: style) parameters = .error e := by
  rw [follow, h]
  split
  · exact ⟨_, rfl⟩
  · split <;> exact ⟨_, rfl⟩

theorem State.exists_take_closing_error {s : State} (h : s.opened = []) (name : Text) :
    ∃ e, s.take (.tag 0 ('/' :: name)) = .error e := by
  have hOpened (taken : Nat) : ({ s with taken }.settle []).opened = [] := h
  unfold take
  dsimp only
  rw [if_neg (by decide)]
  split
  · rename_i tag parameters hCut
    obtain ⟨hName, -⟩ := Text.cut_eq_some hCut
    cases tag with
    | nil => cases hName
    | cons c style =>
      obtain ⟨rfl, -⟩ := List.cons.inj hName
      exact State.exists_follow_error (hOpened _) _ style _
  · exact State.exists_follow_error (hOpened _) _ name none

/-- A closing tag in front of which no tag is opened cannot be shown. -/
theorem exists_render_closing_error {before name : Text} (hBracket : '[' ∉ before)
    (hBackslash : '\\' ∉ before) (hName : '[' ∉ name) (hEnd : ']' ∉ name) (after : Text) :
    ∃ e, render (before ++ '[' :: '/' :: name ++ ']' :: after) = .error e := by
  obtain ⟨e, hClosing⟩ := State.exists_take_closing_error
    (s := { taken := before.length, run := before.reverse }) rfl name
  refine ⟨e, ?_⟩
  have hPieces : pieces (before ++ '[' :: '/' :: name ++ ']' :: after) =
      before.map .plain ++ .tag 0 ('/' :: name) :: pieces after := by
    rw [List.append_assoc, pieces_append hBracket hBackslash, List.cons_append,
      List.cons_append, ← pieces_closing hName hEnd after]
    rfl
  rw [render, hPieces, List.foldlM_append, foldlM_take_plain, List.append_nil, Nat.zero_add]
  change State.take _ _ >>= _ >>= _ = _
  rw [hClosing]
  rfl

end Markup

end Excerpt
