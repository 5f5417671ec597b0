/-!
# Texts

A text is the list of its code points, so lengths, columns and positions count code points.

* `splitOn_ne_nil`: cutting at a separator always leaves at least one piece.
* `join_splitOn`: the pieces, joined by the separator again, are the text.
* `cut_eq_some`: a cut at the first separator loses nothing but that separator.
-/

namespace Excerpt

/-- A line, a token, a file name: the code points in order. -/
abbrev Text := List Char

namespace Text

/-! ## Cutting and joining -/

/-- The pieces between the separators, one more than there are separators. -/
def splitOn (separator : Char) (t : Text) : List Text :=
  t.foldr (fun c pieces =>
    if c = separator then [] :: pieces
    else match pieces with
      | [] => [[c]]
      | piece :: rest => (c :: piece) :: rest) [[]]

/-- The texts in order, with the separator between neighbours. -/
def join (separator : Text) (pieces : List Text) : Text :=
  separator.intercalate pieces

/-- What stands before and after the first separator, if there is one. -/
def cut (separator : Char) (t : Text) : Option (Text × Text) :=
  match t.dropWhile (· != separator) with
  | [] => none
  | _ :: after => some (t.takeWhile (· != separator), after)

/-- What stands before and after the last separator, if there is one. -/
def cutLast (separator : Char) (t : Text) : Option (Text × Text) :=
  (cut separator t.reverse).map fun (after, before) => (before.reverse, after.reverse)

/-- Drops the characters at the end that satisfy the test. -/
def dropEndWhile (p : Char → Bool) (t : Text) : Text :=
  (t.reverse.dropWhile p).reverse

/-- What is left of the text after an opening it begins with. -/
def dropStart? (opening t : Text) : Option Text :=
  if opening.isPrefixOf t then some (t.drop opening.length) else none

/-! ## Occurrences -/

/-- Whether the needle stands somewhere in the text. -/
def occursIn (needle : Text) : Text → Bool
  | [] => needle.isEmpty
  | c :: rest => needle.isPrefixOf (c :: rest) || occursIn needle rest

/-- Drops `skip` characters and then every occurrence of the needle, from the left and
without overlap. -/
def eraseAllFrom (needle : Text) : Nat → Text → Text
  | _, [] => []
  | skip + 1, _ :: rest => eraseAllFrom needle skip rest
  | 0, c :: rest =>
    if needle.isPrefixOf (c :: rest) then eraseAllFrom needle (needle.length - 1) rest
    else c :: eraseAllFrom needle 0 rest

/-- The text without the occurrences of a needle that is not empty. -/
def eraseAll (needle t : Text) : Text :=
  eraseAllFrom needle 0 t

/-! ## Laws of cutting -/

theorem splitOn_nil (separator : Char) : splitOn separator [] = [[]] := rfl

theorem splitOn_ne_nil (separator : Char) (t : Text) : splitOn separator t ≠ [] := by
  cases t with
  | nil => simp [splitOn]
  | cons c rest =>
    simp only [splitOn, List.foldr_cons]
    split
    · simp
    · split <;> simp

theorem splitOn_cons_self (separator : Char) (t : Text) :
    splitOn separator (separator :: t) = [] :: splitOn separator t := by
  simp [splitOn]

theorem splitOn_cons_of_ne {separator c : Char} (h : c ≠ separator) (t : Text) :
    ∃ piece rest, splitOn separator t = piece :: rest ∧
      splitOn separator (c :: t) = (c :: piece) :: rest := by
  cases hs : splitOn separator t with
  | nil => exact absurd hs (splitOn_ne_nil separator t)
  | cons piece rest =>
    refine ⟨piece, rest, rfl, ?_⟩
    simp only [splitOn] at hs
    simp only [splitOn, List.foldr_cons, hs, if_neg h]

theorem join_splitOn (separator : Char) (t : Text) :
    join [separator] (splitOn separator t) = t := by
  induction t with
  | nil => simp [splitOn, join, List.intercalate]
  | cons c rest ih =>
    by_cases h : c = separator
    · subst h
      rw [splitOn_cons_self]
      cases hs : splitOn c rest with
      | nil => exact absurd hs (splitOn_ne_nil c rest)
      | cons piece pieces =>
        rw [hs] at ih
        simpa [join, List.intercalate] using ih
    · obtain ⟨piece, pieces, hs, hc⟩ := splitOn_cons_of_ne h rest
      rw [hs] at ih
      rw [hc]
      cases pieces <;> simpa [join, List.intercalate] using ih

theorem cut_eq_some {separator : Char} {t before after : Text}
    (h : cut separator t = some (before, after)) :
    t = before ++ separator :: after ∧ separator ∉ before := by
  unfold cut at h
  split at h
  · cases h
  · rename_i c rest hd
    cases h
    have hc : c = separator := by
      have := List.head?_dropWhile_not (· != separator) t
      rw [hd] at this
      simpa using this
    subst hc
    refine ⟨?_, ?_⟩
    · conv => lhs; rw [← List.takeWhile_append_dropWhile (p := (· != c)) (l := t), hd]
    · intro hm
      simpa using List.all_takeWhile (l := t) (p := (· != c)) |> List.all_eq_true.mp |> (· c hm)

end Text

end Excerpt
