/-!
# Sets of code points

A set of code points is written as the list of its runs, in ascending order.

* `mem_of_inRuns`: a code point that is found lies in one of the runs.
-/

namespace Excerpt

/-- The runs of a set of code points: first and last of each, ascending. -/
abbrev CodeRuns := List (Nat × Nat)

/-- Whether the code point lies in a run: the first run that does not end before it decides. -/
def inRuns (runs : CodeRuns) (c : Char) : Bool :=
  match runs.find? (fun run => c.toNat ≤ run.2) with
  | some run => run.1 ≤ c.toNat
  | none => false

theorem mem_of_inRuns {runs : CodeRuns} {c : Char} (h : inRuns runs c = true) :
    ∃ run ∈ runs, run.1 ≤ c.toNat ∧ c.toNat ≤ run.2 := by
  unfold inRuns at h
  split at h
  · rename_i run hrun
    exact ⟨run, List.mem_of_find?_eq_some hrun, by simpa using h,
      by simpa using List.find?_some hrun⟩
  · cases h

end Excerpt
