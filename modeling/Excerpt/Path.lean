import Excerpt.Text.Basic

/-!
# Paths

A path is a root, or none, and the names below it. Repeated and trailing slashes and the name `.`
mean nothing and are not kept; `..` is kept, since what it means depends on the disk. Exactly two
leading slashes are a root of their own.

* `ofText_toText`: a path whose names could have been read is read back from its text.
* `join_of_absolute`, `join_assoc`: joining, where an absolute path on the right wins.
-/

namespace Excerpt

/-- Where the names of a path begin. -/
inductive Root where
  | relative
  | slash
  | doubleSlash
  deriving DecidableEq, Repr

/-- A path: where it begins, and the names in order. -/
structure Path where
  root : Root
  names : List Text
  deriving DecidableEq, Repr

namespace Root

/-- The root that a text begins with; three slashes and more are one. -/
def ofText : Text → Root
  | '/' :: '/' :: '/' :: _ => .slash
  | '/' :: '/' :: _ => .doubleSlash
  | '/' :: _ => .slash
  | _ => .relative

def toText : Root → Text
  | .relative => []
  | .slash => ['/']
  | .doubleSlash => ['/', '/']

end Root

namespace Path

/-- The name of the place itself. -/
def here : Text := ['.']

/-- The name of the place above. -/
def above : Text := ['.', '.']

/-- Whether a piece between slashes is a name of the path. -/
def isName (piece : Text) : Bool := !piece.isEmpty && piece != here

/-- Reads a path. -/
def ofText (t : Text) : Path :=
  ⟨Root.ofText t, (Text.splitOn '/' t).filter isName⟩

/-- Writes a path; the relative path without names is the place itself. -/
def toText (p : Path) : Text :=
  if p.root = .relative && p.names.isEmpty then here
  else p.root.toText ++ Text.join ['/'] p.names

/-- The path that the right one means below the left one. -/
def join (left right : Path) : Path :=
  match right.root with
  | .relative => ⟨left.root, left.names ++ right.names⟩
  | _ => right

/-- The last name, empty if there is none. -/
def name (p : Path) : Text := p.names.getLast?.getD []

/-- What the last name has behind its last dot, unless that dot is its first or last
character. -/
def extension (p : Path) : Text :=
  match Text.cutLast '.' p.name with
  | some (stem, extension) => if stem.isEmpty then [] else extension
  | none => []

/-- The same path with another last name. -/
def replaceName (p : Path) (name : Text) : Path :=
  ⟨p.root, p.names.dropLast ++ [name]⟩

/-! ## Joining -/

theorem join_of_absolute (left : Path) {right : Path} (h : right.root ≠ .relative) :
    left.join right = right := by
  unfold join
  split
  · rename_i hEq
    exact absurd hEq h
  · rfl

theorem join_assoc (a b c : Path) : (a.join b).join c = a.join (b.join c) := by
  by_cases hc : c.root = .relative
  · by_cases hb : b.root = .relative
    · simp [join, hb, hc]
    · have hbc : (b.join c).root ≠ .relative := by simpa [join, hc] using hb
      rw [join_of_absolute a hb, join_of_absolute a hbc]
  · rw [join_of_absolute _ hc, join_of_absolute _ hc, join_of_absolute _ hc]

/-! ## Reading and writing -/

theorem splitOn_slash_append {name : Text} (h : '/' ∉ name) (rest : Text) :
    Text.splitOn '/' (name ++ '/' :: rest) = name :: Text.splitOn '/' rest := by
  induction name with
  | nil => exact Text.splitOn_cons_self '/' rest
  | cons c tail ih =>
    have hc : c ≠ '/' := fun hEq => h (by simp [hEq])
    have ht : '/' ∉ tail := fun hMem => h (List.mem_cons_of_mem _ hMem)
    obtain ⟨piece, pieces, hs, hcons⟩ :=
      Text.splitOn_cons_of_ne hc (tail ++ '/' :: rest)
    rw [ih ht] at hs
    cases hs
    exact hcons

theorem splitOn_of_no_slash {name : Text} (h : '/' ∉ name) :
    Text.splitOn '/' name = [name] := by
  induction name with
  | nil => rfl
  | cons c tail ih =>
    have hc : c ≠ '/' := fun hEq => h (by simp [hEq])
    have ht : '/' ∉ tail := fun hMem => h (List.mem_cons_of_mem _ hMem)
    obtain ⟨piece, pieces, hs, hcons⟩ := Text.splitOn_cons_of_ne hc tail
    rw [ih ht] at hs
    cases hs
    exact hcons

theorem splitOn_join {names : List Text} (hne : names ≠ []) (h : ∀ n ∈ names, '/' ∉ n) :
    Text.splitOn '/' (Text.join ['/'] names) = names := by
  induction names with
  | nil => exact absurd rfl hne
  | cons name rest ih =>
    cases rest with
    | nil => simpa [Text.join, List.intercalate] using splitOn_of_no_slash (h name (by simp))
    | cons next rest =>
      have hrest := ih (by simp) (fun n hn => h n (List.mem_cons_of_mem _ hn))
      have hjoin : Text.join ['/'] (name :: next :: rest) =
          name ++ '/' :: Text.join ['/'] (next :: rest) := by
        simp [Text.join, List.intercalate]
      rw [hjoin, splitOn_slash_append (h name (by simp)), hrest]

/-- The paths that reading a text can give. -/
def IsProper (p : Path) : Prop := ∀ n ∈ p.names, isName n = true ∧ '/' ∉ n

theorem ofText_toText {p : Path} (h : p.IsProper) : ofText p.toText = p := by
  obtain ⟨root, names⟩ := p
  have hslash : ∀ n ∈ names, '/' ∉ n := fun n hn => (h n hn).2
  have hfilter : names.filter isName = names :=
    List.filter_eq_self.mpr fun n hn => (h n hn).1
  cases names with
  | nil => cases root <;> rfl
  | cons name rest =>
    have hsplit := @splitOn_join (name :: rest) (by simp) hslash
    have hname := h name (by simp)
    obtain ⟨c, tail, rfl⟩ : ∃ c tail, name = c :: tail := by
      cases name with
      | nil => simp [isName] at hname
      | cons c tail => exact ⟨c, tail, rfl⟩
    have hc : c ≠ '/' := fun hEq => hname.2 (by simp [hEq])
    have hhead : ∃ more, Text.join ['/'] ((c :: tail) :: rest) = c :: more := by
      cases rest <;> simp [Text.join, List.intercalate]
    obtain ⟨more, hmore⟩ := hhead
    have hroot : toText ⟨root, (c :: tail) :: rest⟩ = root.toText ++ c :: more := by
      simp [toText, hmore]
    rw [hmore] at hsplit
    rw [hroot]
    cases root with
    | relative =>
      have hr : Root.ofText (c :: more) = .relative := by
        simp [Root.ofText, hc]
      simp only [ofText, Root.toText, List.nil_append, hr, hsplit, hfilter]
    | slash =>
      have hr : Root.ofText ('/' :: c :: more) = .slash := by
        simp [Root.ofText, hc]
      simp only [ofText, Root.toText, List.cons_append, List.nil_append, hr,
        Text.splitOn_cons_self, hsplit, List.filter_cons, hfilter]
      simp [isName]
    | doubleSlash =>
      have hr : Root.ofText ('/' :: '/' :: c :: more) = .doubleSlash := by
        simp [Root.ofText, hc]
      simp only [ofText, Root.toText, List.cons_append, List.nil_append, hr,
        Text.splitOn_cons_self, hsplit, List.filter_cons, hfilter]
      simp [isName]

end Path

end Excerpt
