import Excerpt.Main.Expression.Tree

/-!
# Patterns and rules

A rule has alternatives, which are tried in order; the first that fits is taken and never given up
again. An alternative is a row of patterns and a verdict on what they match: it makes a tree of it,
refuses the whole text, or rejects the rule. Some rules only look for flaws; they are tried when
the text is already known to be wrong.
-/

namespace Excerpt.Expression

/-- A pattern over the rules of the given names. -/
inductive Pattern (φ : Type) where
  -- a token: of a kind, or the given sign or word
  | kind (k : TokenKind)
  | sign (s : String)
  -- a rule
  | form (f : φ)
  -- patterns in a row, and the first of several that fits
  | all (ps : List (Pattern φ))
  | any (ps : List (Pattern φ))
  -- a pattern once or not at all, as often as it fits, and once at least
  | optional (p : Pattern φ)
  | many (p : Pattern φ)
  | some (p : Pattern φ)
  | separated (p : Pattern φ) (separator : String)
  -- what must follow, and what must not, without being taken
  | ahead (p : Pattern φ)
  | notAhead (p : Pattern φ)
  -- from here on no other alternative is tried
  | commit

/-- What the patterns of an alternative have matched: where it begins, how many brackets are open
behind its last token, and the parts. -/
structure Matched where
  line : Nat
  depth : Nat
  parts : List Tree

/-- The verdict on a match. A refusal may name the tree whose line it is about; else it is about
the last token that has been looked at. -/
inductive Verdict where
  | accept (t : Tree)
  | refuse (flaw : Flaw) (about : Option Tree)
  | reject

/-- One way to match a rule. -/
structure Alternative (φ : Type) where
  patterns : List (Pattern φ)
  verdict : Matched → Verdict

/-- How what a rule has matched at a place is used again. -/
inductive Reuse where
  | never
  | kept
  | growing
  deriving DecidableEq, Repr

/-- A rule: its alternatives, how its matches are used again, whether it only looks for flaws, and
whether the search for flaws rests inside it. -/
structure Rule (φ : Type) where
  alternatives : List (Alternative φ)
  reuse : Reuse := .never
  isSearch : Bool := false
  restsSearch : Bool := false
end Excerpt.Expression
