import Excerpt.Selector.Body

/-!
# Suffixes of a command

Behind the target of a command stand up to three pieces in brackets, in any order and with blanks
around them. A piece ends where its own kind of bracket is balanced again; brackets of the other
kinds are text. An `r` in front of the braces or angle brackets makes a selector relative.

* `closeAt_eq_some`: the body of a piece and the text behind it lose nothing but the closer.
* `balanced_of_closeAt`: the body is balanced in its own bracket.
* `split_nil`: no text, no suffixes.
-/

namespace Excerpt

/-- The pieces behind a command. -/
structure Suffixes where
  highlight : Option SelectorSource := none
  edit : Option SelectorSource := none
  options : Option Text := none
  deriving DecidableEq, Repr

namespace Suffixes

/-- Whether a piece of this kind is there. -/
def has (s : Suffixes) : Bracket → Bool
  | .brace => s.highlight.isSome
  | .angle => s.edit.isSome
  | .square => s.options.isSome

/-- The same pieces and one more. -/
def add (s : Suffixes) (bracket : Bracket) (source : SelectorSource) : Suffixes :=
  match bracket with
  | .brace => { s with highlight := some source }
  | .angle => { s with edit := some source }
  | .square => { s with options := some source.body }

/-! ## One piece -/

/-- The body of a piece and what stands behind it, for a text behind `depth + 1` openers. -/
def closeAt (bracket : Bracket) : Nat → Text → Option (Text × Text)
  | _, [] => none
  | depth, c :: rest =>
    if c = bracket.opener then
      (closeAt bracket (depth + 1) rest).map fun (body, after) => (c :: body, after)
    else if c = bracket.closer then
      match depth with
      | 0 => some ([], rest)
      | depth + 1 => (closeAt bracket depth rest).map fun (body, after) => (c :: body, after)
    else (closeAt bracket depth rest).map fun (body, after) => (c :: body, after)

theorem closeAt_eq_some {bracket : Bracket} {depth : Nat} {t body after : Text}
    (h : closeAt bracket depth t = some (body, after)) :
    t = body ++ bracket.closer :: after := by
  induction t generalizing depth body with
  | nil => simp [closeAt] at h
  | cons c rest ih =>
    have hcons : ∀ n, (closeAt bracket n rest).map (fun p => (c :: p.1, p.2)) =
        some (body, after) → c :: rest = body ++ bracket.closer :: after := by
      intro n hn
      obtain ⟨⟨inner, behind⟩, hi, hEq⟩ := Option.map_eq_some_iff.mp hn
      cases hEq
      rw [ih hi]
      rfl
    unfold closeAt at h
    split at h
    · exact hcons _ h
    · split at h
      · rename_i hc
        split at h
        · cases h
          simp [hc]
        · exact hcons _ h
      · exact hcons _ h

theorem length_lt_of_closeAt {bracket : Bracket} {depth : Nat} {t body after : Text}
    (h : closeAt bracket depth t = some (body, after)) : after.length < t.length := by
  rw [closeAt_eq_some h]
  simp
  omega

/-- A text that leaves `depth` openers open and never closes one that it has not opened before,
counted from `start` open ones. -/
def Balanced (bracket : Bracket) : Nat → Text → Prop
  | depth, [] => depth = 0
  | depth, c :: rest =>
    if c = bracket.opener then Balanced bracket (depth + 1) rest
    else if c = bracket.closer then ∃ n, depth = n + 1 ∧ Balanced bracket n rest
    else Balanced bracket depth rest

theorem balanced_of_closeAt {bracket : Bracket} {depth : Nat} {t body after : Text}
    (h : closeAt bracket depth t = some (body, after)) : Balanced bracket depth body := by
  induction t generalizing depth body with
  | nil => simp [closeAt] at h
  | cons c rest ih =>
    have hcons : ∀ n, (closeAt bracket n rest).map (fun p => (c :: p.1, p.2)) =
        some (body, after) → ∃ inner, body = c :: inner ∧ Balanced bracket n inner := by
      intro n hn
      obtain ⟨⟨inner, behind⟩, hi, hEq⟩ := Option.map_eq_some_iff.mp hn
      cases hEq
      exact ⟨inner, rfl, ih hi⟩
    unfold closeAt at h
    split at h
    · rename_i hc
      obtain ⟨inner, rfl, hb⟩ := hcons _ h
      simpa [Balanced, hc] using hb
    · rename_i ho
      split at h
      · rename_i hc
        split at h
        · cases h
          rfl
        · obtain ⟨inner, rfl, hb⟩ := hcons _ h
          rw [Balanced, if_neg ho, if_pos hc]
          exact ⟨_, rfl, hb⟩
      · rename_i hc
        obtain ⟨inner, rfl, hb⟩ := hcons _ h
        simpa [Balanced, ho, hc] using hb

/-- The bracket that a piece begins with, how its lines are meant, and the text behind the
opener. -/
def openPiece? (t : Text) : Option (Addressing × Bracket × Text) :=
  match t with
  | 'r' :: '\x7b' :: rest => some (.relative, .brace, rest)
  | 'r' :: '<' :: rest => some (.relative, .angle, rest)
  | c :: rest => (Bracket.ofOpener? c).map fun bracket => (.absolute, bracket, rest)
  | [] => none

theorem length_lt_of_openPiece {t rest : Text} {mode : Addressing} {bracket : Bracket}
    (h : openPiece? t = some (mode, bracket, rest)) : rest.length < t.length := by
  unfold openPiece? at h
  split at h
  · cases h
    simp only [List.length_cons]
    omega
  · cases h
    simp only [List.length_cons]
    omega
  · obtain ⟨b, -, hEq⟩ := Option.map_eq_some_iff.mp h
    cases hEq
    simp
  · cases h

/-! ## All pieces -/

set_option linter.unusedVariables false in
/-- Reads the pieces of a text behind those that were found before; `whole` is the text of all
of them. -/
def splitFrom (whole : Text) (found : Suffixes) (t : Text) : Except Fault Suffixes :=
  match ht : Text.trimStart t with
  | [] => .ok found
  | c :: rest =>
    match ho : openPiece? (c :: rest) with
    | none => .error (.textBehindCommand (c :: rest))
    | some (mode, bracket, inner) =>
      if found.has bracket then .error (.repeatedBracket bracket whole)
      else match hc : closeAt bracket 0 inner with
        | none => .error (.unbalancedBracket bracket (bracket.opener :: inner))
        | some (body, after) => splitFrom whole (found.add bracket ⟨body, mode⟩) after
termination_by t.length
decreasing_by
  have h1 := length_lt_of_closeAt hc
  have h2 := length_lt_of_openPiece ho
  have h3 : (Text.trimStart t).length ≤ t.length := by
    have := congrArg List.length (Text.indentation_append_trimStart t)
    rw [List.length_append] at this
    omega
  rw [ht] at h3
  omega

/-- Reads the pieces behind a command. -/
def split (t : Text) : Except Fault Suffixes := splitFrom t {} t

theorem split_nil : split [] = .ok {} := by
  unfold split splitFrom
  rfl

end Suffixes

end Excerpt
