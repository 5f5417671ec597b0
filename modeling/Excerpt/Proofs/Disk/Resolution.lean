import Excerpt.Proofs.Disk

/-!
# Paths that are resolved

A path is resolved by its names alone, and each `..` takes back the name before it; it is followed
on the disk, where each name needs a directory to be looked up in. As there are no links, a path
that can be followed leads to the place that it resolves to. A path that resolves to a place need
not lead anywhere.

* `Path.here_not_mem_ofText`: a path that is read holds no name of the place itself.
* `Disk.resolve_of_target`: where a path leads, by its names.
* `Disk.here_not_mem_of_target`: a path from the top leads to no such name.
-/

namespace Excerpt

theorem Path.here_not_mem_ofText (t : Text) : Path.here ∉ (Path.ofText t).names := by
  intro hMem
  have hName := (List.mem_filter.mp hMem).2
  simp [Path.isName] at hName

namespace Disk

variable {d : Disk} {p : Path} {place next : Place} {names : List Text}

/-- One name, followed where it is not the place itself. -/
theorem next_of_step {name : Text} (h : d.step place name = .ok next) (hName : name ≠ Path.here) :
    (if name = Path.above then place.dropLast else place ++ [name]) = next := by
  obtain ⟨-, -, hNext⟩ := step_eq_ok_iff.mp h
  rw [if_neg hName] at hNext
  split at hNext
  · rename_i hAbove
    rw [if_pos hAbove]
    exact Except.ok.inj hNext
  · rename_i hAbove
    rw [if_neg hAbove]
    split at hNext
    · cases hNext
    · exact Except.ok.inj hNext

theorem foldl_of_foldlM_step (h : names.foldlM d.step place = .ok next)
    (hNames : Path.here ∉ names) :
    names.foldl (fun place name =>
      if name = Path.above then place.dropLast else place ++ [name]) place = next := by
  induction names generalizing place with
  | nil => exact Except.ok.inj h
  | cons name rest ih =>
    rw [List.foldlM_cons] at h
    obtain ⟨middle, hStep, hRest⟩ := bind_eq_ok_iff.mp h
    rw [List.foldl_cons, next_of_step hStep (List.ne_of_not_mem_cons hNames).symm]
    exact ih hRest (List.not_mem_of_not_mem_cons hNames)

/-- A path that can be followed leads to the place that it resolves to. -/
theorem resolve_of_target (h : d.target p = .ok place) (hNames : Path.here ∉ p.names) :
    d.resolve p = ⟨.slash, place⟩ := by
  obtain ⟨-, -, hFollowed⟩ := target_eq_ok_iff.mp h
  rw [resolve, foldl_of_foldlM_step hFollowed hNames]

/-- The name of the place itself is never left behind on the way. -/
theorem here_not_mem_of_step {name : Text} (h : d.step place name = .ok next)
    (hPlace : Path.here ∉ place) : Path.here ∉ next := by
  by_cases hName : name = Path.here
  · obtain ⟨-, -, hNext⟩ := step_eq_ok_iff.mp h
    rw [if_pos hName] at hNext
    exact Except.ok.inj hNext ▸ hPlace
  · rw [← next_of_step h hName]
    split
    · exact fun hMem => hPlace ((List.dropLast_sublist place).mem hMem)
    · rw [List.mem_append, List.mem_singleton]
      rintro (hMem | hEq)
      · exact hPlace hMem
      · exact hName hEq.symm

theorem here_not_mem_of_foldlM_step (h : names.foldlM d.step place = .ok next)
    (hPlace : Path.here ∉ place) : Path.here ∉ next := by
  induction names generalizing place with
  | nil => exact Except.ok.inj h ▸ hPlace
  | cons name rest ih =>
    rw [List.foldlM_cons] at h
    obtain ⟨middle, hStep, hRest⟩ := bind_eq_ok_iff.mp h
    exact ih hRest (here_not_mem_of_step hStep hPlace)

theorem here_not_mem_of_target (h : d.target p = .ok place) (hRoot : p.root ≠ .relative) :
    Path.here ∉ place := by
  obtain ⟨-, -, hFollowed⟩ := target_eq_ok_iff.mp h
  refine here_not_mem_of_foldlM_step hFollowed ?_
  cases hStart : p.root with
  | relative => exact absurd hStart hRoot
  | slash | doubleSlash => exact List.not_mem_nil

end Disk

end Excerpt
