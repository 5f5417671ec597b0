import Excerpt.Main.Picture.Table
import Excerpt.Text.Blank
import Excerpt.Text.LowerCase

/-!
# Pictures in a text

A name between two colons stands for a picture, in small or in capital letters. The name may end
with a word that chooses between the coloured form of the picture and the form of a letter. What is
not the name of a picture stays as it is, and no colon belongs to two names.

* `replaced_of_no_colon`: a text without a colon is left alone.
* `shown_of_find?_eq_none`: what is no name is left alone.
-/

namespace Excerpt.Picture

/-! ## Names -/

/-- The words at odd places, each with the word behind it. -/
def pairs : List Text → List (Text × Text)
  | name :: picture :: rest => (name, picture) :: pairs rest
  | _ => []

/-- The picture of a name in small letters. -/
def find? : Text → Option Text
  | [] => none
  | c :: rest => (pairs (Text.words table.toList)).lookup (c :: rest)

/-- The words that choose a form, each with the selector that it puts behind the picture. -/
def forms : List (Text × Text) :=
  [("-emoji".toList, ['\uFE0F']), ("-text".toList, ['\uFE0E'])]

/-- The name in what stands between two colons, and the selector of the form that it chooses. -/
def nameOf (inside : Text) : Text × Text :=
  match forms.find? fun form => form.1.isSuffixOf inside with
  | some (word, selector) => (inside.take (inside.length - word.length), selector)
  | none => (inside, [])

/-- What is shown for a text between two colons. -/
def shown (inside : Text) : Text :=
  match find? (Text.lower (nameOf inside).1) with
  | some picture => picture ++ (nameOf inside).2
  | none => ':' :: inside ++ [':']

/-! ## Texts -/

set_option linter.unusedVariables false in
/-- The text with pictures in the place of their names. -/
def replaced : Text → Text
  | [] => []
  | c :: rest =>
    if c = ':' then
      match h : Text.cut ':' rest with
      | none => c :: rest
      | some (inside, behind) =>
        if inside.any isBlank then c :: replaced rest else shown inside ++ replaced behind
    else c :: replaced rest
termination_by t => t.length
decreasing_by
  · simp
  · rw [(Text.cut_eq_some h).1]
    simp only [List.length_cons, List.length_append]
    omega
  · simp

/-! ## Laws -/

theorem shown_of_find?_eq_none {inside : Text}
    (h : find? (Text.lower (nameOf inside).1) = none) : shown inside = ':' :: inside ++ [':'] := by
  unfold shown
  rw [h]

theorem replaced_of_no_colon {t : Text} (h : ':' ∉ t) : replaced t = t := by
  induction t with
  | nil => rw [replaced]
  | cons c rest ih =>
    have hc : c ≠ ':' := fun hEq => h (by simp [hEq])
    rw [replaced, if_neg hc, ih fun hm => h (List.mem_cons_of_mem _ hm)]

end Excerpt.Picture
