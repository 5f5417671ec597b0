import Excerpt.Main.Expression.Pattern
import Std.Data.HashMap

/-!
# Reading by rules

A rule is matched at a place of a row of tokens. What rules of some kinds have matched there is
kept, and a rule may begin with itself, in which case its match grows as long as it can. A text that
no rule fits is read once more in search of a flaw; if none is found, the last token that the first
reading has looked at is to blame.

* `Attempt.token_of_stop`: what stands behind the last token that could be cut ends the reading.
* `Reader.weigh_of_no_stop`: if the whole text could be cut, the refusal of a rule counts.
* `Reader.weigh_of_grave`: else a grave flaw counts, whatever a rule refuses.
-/

namespace Excerpt.Expression

/-! ## Refusals -/

/-- The rules of a text, by name, and its tokens. -/
structure Reader (φ : Type) where
  rule : φ → Rule φ
  tokens : Tokens

namespace Reader

/-- The line of the last of so many tokens. -/
def lineOf (r : Reader φ) (count : Nat) : Option Nat := (r.tokens.items[count - 1]?).map Token.line

/-- The refusal that counts if a reading refuses when it has looked at so many tokens: a grave flaw
further on stands against it, and so does a bracket that was opened on an earlier line and never
closed. -/
def weigh (r : Reader φ) (reached : Nat) (refusal : Refusal) : Refusal :=
  match r.tokens.stop with
  | none => refusal
  | some stop =>
    if stop.isGrave then stop.refusal
    else match stop.unclosed with
      | some (opening, opened) =>
        if (r.lineOf reached).any (opened < ·) then ⟨.neverClosed opening, some opened⟩
        else refusal
      | none => refusal

/-- The refusal that counts if a rule refuses. Where the end of the tokens is already in sight, the
rule is right. -/
def weighRuled (r : Reader φ) (reached : Nat) (refusal : Refusal) : Refusal :=
  if r.tokens.stop.any Stop.isForeseen && reached = r.tokens.items.size then refusal
  else r.weigh reached refusal

/-- The refusal of a text that no rule fits and in which no rule has found a flaw. It is about the
last token that was looked at when the rules were tried first. -/
def unread (r : Reader φ) (first second : Nat) : Refusal :=
  match r.tokens.items[first - 1]? with
  | some t =>
    if t.kind = .indent then ⟨.unexpectedIndent, r.lineOf second⟩
    else r.weigh second ⟨.unreadable, some t.line⟩
  | none => ⟨.unreadable, none⟩

theorem weigh_of_no_stop {r : Reader φ} (h : r.tokens.stop = none) (reached : Nat)
    (refusal : Refusal) : r.weigh reached refusal = refusal := by
  simp [weigh, h]

theorem weigh_of_grave {r : Reader φ} {stop : Stop} (h : r.tokens.stop = some stop)
    (hGrave : stop.isGrave = true) (reached : Nat) (refusal : Refusal) :
    r.weigh reached refusal = stop.refusal := by
  simp [weigh, h, hGrave]

end Reader

/-! ## Matches -/

/-- Why a reading ends early: a refusal by a rule, with the number of tokens that the reading has
looked at, or the flaw at which the tokens end. -/
inductive Halt where
  | ruled (r : Refusal) (reached : Nat)
  | cut (r : Refusal)
  deriving DecidableEq, Repr

/-- A match: the tree and the position behind it. -/
abbrev Match := Option (Tree × Nat)

/-- The state of a reading: the matches that are kept, how many tokens have been looked at, and
whether rules that look for flaws are tried. -/
structure Reading (φ : Type) [BEq φ] [Hashable φ] where
  kept : Std.HashMap (φ × Nat) Match := ∅
  reached : Nat := 0
  isSearching : Bool := false

abbrev Attempt (φ : Type) [BEq φ] [Hashable φ] := StateT (Reading φ) (Except Halt)

section

variable {φ : Type} [BEq φ] [Hashable φ]

namespace Attempt

/-- The token at a position. -/
def token (tokens : Tokens) (i : Nat) : Attempt φ (Option Token) :=
  match tokens.items[i]?, tokens.stop with
  | some t, _ => do
    modify fun s => { s with reached := max s.reached (i + 1) }
    return some t
  | none, some stop => throw (.cut stop.refusal)
  | none, none => return none

theorem token_of_stop {tokens : Tokens} {i : Nat} {stop : Stop}
    (hItem : tokens.items[i]? = none) (hStop : tokens.stop = some stop) (s : Reading φ) :
    (token tokens i : Attempt φ _).run s = .error (.cut stop.refusal) := by
  simp only [token, hItem, hStop]
  rfl

/-- The match of a single token that satisfies the test. -/
def single (tokens : Tokens) (test : Token → Bool) (i : Nat) : Attempt φ Match := do
  match ← token tokens i with
  | some t => return if test t then some (.token t, i + 1) else none
  | none => return none

end Attempt

namespace Reader

mutual

/-- Matches a pattern at a position, with a bound on the depth. -/
def matchPattern (r : Reader φ) : Nat → Pattern φ → Nat → Attempt φ Match
  | 0, _, _ => return none
  | fuel + 1, p, i =>
    match p with
    | .kind k => Attempt.single r.tokens (·.isA k) i
    | .sign s => Attempt.single r.tokens (·.isSign s) i
    | .form f => matchForm r fuel f i
    | .all ps => do
      let (found, _) ← matchAll r fuel ps i
      return found.map fun (parts, j) => (.row parts, j)
    | .any ps => matchAny r fuel ps i
    | .optional p => do
      match ← matchPattern r fuel p i with
      | some found => return some found
      | none => return some (.row [], i)
    | .many p => do
      let (parts, j) ← matchMany r fuel p i
      return some (.row parts, j)
    | .some p => do
      let (parts, j) ← matchMany r fuel p i
      return if parts.isEmpty then none else some (.row parts, j)
    | .separated p separator => do
      match ← matchPattern r fuel p i with
      | none => return none
      | some (first, j) =>
        let (rest, k) ← matchSeparated r fuel p separator j
        return some (.row (first :: rest), k)
    | .ahead p => return (← matchPattern r fuel p i).map fun _ => (.row [], i)
    | .notAhead p => do
      match ← matchPattern r fuel p i with
      | some _ => return none
      | none => return some (.row [], i)
    | .commit => return some (.row [], i)

/-- Matches patterns in a row; tells also whether the row has been committed to. -/
def matchAll (r : Reader φ) : Nat → List (Pattern φ) → Nat →
    Attempt φ (Option (List Tree × Nat) × Bool)
  | 0, _, _ => return (none, false)
  | _, [], i => return (some ([], i), false)
  | fuel + 1, p :: rest, i => do
    let commits := match p with
      | .commit => true
      | _ => false
    match ← matchPattern r fuel p i with
    | none => return (none, false)
    | some (t, j) =>
      let (found, isCommitted) ← matchAll r fuel rest j
      return (found.map fun (parts, k) => (t :: parts, k), commits || isCommitted)

/-- The match of the first of several patterns that fits. -/
def matchAny (r : Reader φ) : Nat → List (Pattern φ) → Nat → Attempt φ Match
  | 0, _, _ => return none
  | _, [], _ => return none
  | fuel + 1, p :: rest, i => do
    match ← matchPattern r fuel p i with
    | some found => return some found
    | none => matchAny r fuel rest i

/-- Matches a pattern as often as it fits. -/
def matchMany (r : Reader φ) : Nat → Pattern φ → Nat → Attempt φ (List Tree × Nat)
  | 0, _, i => return ([], i)
  | fuel + 1, p, i => do
    match ← matchPattern r fuel p i with
    | none => return ([], i)
    | some (t, j) =>
      let (rest, k) ← matchMany r fuel p j
      return (t :: rest, k)

/-- Matches a pattern behind a separator as often as both fit. -/
def matchSeparated (r : Reader φ) : Nat → Pattern φ → String → Nat → Attempt φ (List Tree × Nat)
  | 0, _, _, i => return ([], i)
  | fuel + 1, p, separator, i => do
    match ← Attempt.single r.tokens (·.isSign separator) i with
    | none => return ([], i)
    | some (_, j) =>
      match ← matchPattern r fuel p j with
      | none => return ([], i)
      | some (t, k) =>
        let (rest, l) ← matchSeparated r fuel p separator k
        return (t :: rest, l)

/-- Matches a rule by the first alternative that fits. -/
def matchAlternatives (r : Reader φ) : Nat → List (Alternative φ) → Nat → Attempt φ Match
  | 0, _, _ => return none
  | _, [], _ => return none
  | fuel + 1, alternative :: rest, i => do
    let (found, isCommitted) ← matchAll r fuel alternative.patterns i
    match found with
    | none => if isCommitted then return none else matchAlternatives r fuel rest i
    | some (parts, j) =>
      let line := ((r.tokens.items[i]?).map Token.line).getD 0
      let depth := ((r.tokens.items[j - 1]?).map Token.depth).getD 0
      match alternative.verdict ⟨line, depth, parts⟩ with
      | .accept t => return some (t, j)
      | .reject => return none
      | .refuse flaw about =>
        let reached := (← get).reached
        throw (.ruled ⟨flaw, (about.bind Tree.line?).or (r.lineOf reached)⟩ reached)

/-- Lets the match of a rule that begins with itself grow. -/
def grow (r : Reader φ) : Nat → φ → Nat → Match → Attempt φ Match
  | 0, _, _, best => return best
  | fuel + 1, f, i, best => do
    modify fun s => { s with kept := s.kept.insert (f, i) best }
    let found ← matchAlternatives r fuel (r.rule f).alternatives i
    match found with
    | none => return best
    | some (_, j) =>
      if best.any fun (_, k) => j ≤ k then return best else grow r fuel f i found

/-- Matches a rule. -/
def matchForm (r : Reader φ) : Nat → φ → Nat → Attempt φ Match
  | 0, _, _ => return none
  | fuel + 1, f, i => do
    let rule := r.rule f
    let isSearching := (← get).isSearching
    if rule.isSearch && !isSearching then return none
    if rule.reuse ≠ .never then
      if let some found := (← get).kept[(f, i)]? then return found
    if rule.restsSearch then modify fun s => { s with isSearching := false }
    let found ← if rule.reuse = .growing then grow r fuel f i none
      else matchAlternatives r fuel rule.alternatives i
    if rule.restsSearch then modify fun s => { s with isSearching }
    if rule.reuse ≠ .never then modify fun s => { s with kept := s.kept.insert (f, i) found }
    return found

end

/-- How deep a reading may go: rules do not nest deeper than this without a token between them. -/
def fuel (r : Reader φ) : Nat := 1000 * (r.tokens.items.size + 2)

/-- Reads the whole text by a rule; if that fails, once more in search of a flaw. -/
def read (r : Reader φ) (f : φ) : Except Refusal Tree :=
  match (r.matchForm r.fuel f 0).run {} with
  | .error (.cut refusal) => .error refusal
  | .error (.ruled refusal reached) => .error (r.weighRuled reached refusal)
  | .ok (some (t, _), _) => .ok t
  | .ok (none, first) =>
    match (r.matchForm r.fuel f 0).run { reached := first.reached, isSearching := true } with
    | .error (.cut refusal) => .error refusal
    | .error (.ruled refusal reached) => .error (r.weighRuled reached refusal)
    | .ok (_, second) => .error (r.unread first.reached second.reached)

end Reader

end

end Excerpt.Expression
