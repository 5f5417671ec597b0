import Excerpt.Text.Basic
import Excerpt.Text.LowerCase.Table

/-!
# Lower case

Every code point is replaced by its lower case letter. Two capitals are special: the I with a dot
becomes two code points, and a sigma takes its final form behind a letter with case when no such
letter follows, marks between them being passed over.

* `lower_append_of_no_sigma`: without a capital sigma the letters do not look at their neighbours.
-/

namespace Excerpt

/-- Whether the first character that is not passed over is a letter with case. -/
def beginsCased (t : Text) : Bool :=
  match t.dropWhile (inRuns caseIgnorableRuns) with
  | c :: _ => inRuns casedRuns c
  | [] => false

/-- The lower case of a character between what stands before it, nearest first, and after it. -/
def lowerChar (before : Text) (c : Char) (after : Text) : Text :=
  if c = 'Σ' then
    if beginsCased before && !beginsCased after then ['ς'] else ['σ']
  else if c = 'İ' then ['i', '\u0307']
  else [lowerSimple c]

namespace Text

/-- The lower case of a text behind the given characters, nearest first. -/
def lowerFrom (before : Text) : Text → Text
  | [] => []
  | c :: rest => lowerChar before c rest ++ lowerFrom (c :: before) rest

/-- The text in lower case. -/
def lower (t : Text) : Text := lowerFrom [] t

theorem lowerFrom_of_no_sigma {t : Text} (h : 'Σ' ∉ t) (before : Text) :
    lowerFrom before t = t.flatMap (fun c => lowerChar [] c []) := by
  induction t generalizing before with
  | nil => rfl
  | cons c rest ih =>
    have hc : c ≠ 'Σ' := fun hEq => h (by simp [hEq])
    have hr : 'Σ' ∉ rest := fun hMem => h (List.mem_cons_of_mem _ hMem)
    simp [lowerFrom, ih hr, lowerChar, hc]

theorem lower_append_of_no_sigma {s t : Text} (hs : 'Σ' ∉ s) (ht : 'Σ' ∉ t) :
    lower (s ++ t) = lower s ++ lower t := by
  have hst : 'Σ' ∉ s ++ t := by simp [hs, ht]
  simp only [lower, lowerFrom_of_no_sigma hs, lowerFrom_of_no_sigma ht,
    lowerFrom_of_no_sigma hst, List.flatMap_append]

end Text

end Excerpt
