import Excerpt.Proofs.Text.FirstLine
import Mathlib.Data.List.Chain
import Mathlib.Data.List.Perm.Subperm

/-!
# Walks along failures

A failure points at the one it was raised for, or else at the one that was being handled. A walk
follows these links from a first failure until there is none, or one that was visited before. From
where it begins there is exactly one walk, in a circle too: it visits all that can be reached, each
failure once. The walk of the messages begins at a failure, that of its causes behind it: the two
differ by that failure, unless it stands on a circle itself and so is among its own causes.

* `Incidents.IsWalk.unique`, `Incidents.isWalk_walk`: there is one walk, and it is taken.
* `Incidents.IsWalk.mem_iff`: the failures that it visits.
* `Incidents.walk_eq_cons_iff`: how the walk behind a failure differs from the one from it.
* `Incidents.summary_complete`: the messages and the causes of a failure.
-/

namespace Excerpt

namespace Incidents

variable {incidents : Incidents} {start i j : Nat} {walk other : List Nat}

/-! ## Links -/

/-- Whether the failure at `i` points at the one at `j`: as its cause or, if it has none, as its
context. -/
def LeadsTo (incidents : Incidents) (i j : Nat) : Prop :=
  j < incidents.length ∧ ∃ incident, incidents[i]? = some incident ∧
    (incident.cause = some j ∨ incident.cause = none ∧ incident.context = some j)

theorem leadsTo_iff :
    incidents.LeadsTo i j ↔ j < incidents.length ∧ incidents.next? i = some j := by
  refine and_congr_right fun _ => ?_
  unfold next?
  rw [Option.bind_eq_some_iff]
  refine exists_congr fun incident => and_congr_right fun _ => ?_
  cases hCause : incident.cause with
  | none => simp
  | some k => simp

theorem LeadsTo.unique {k : Nat} (hj : incidents.LeadsTo i j) (hk : incidents.LeadsTo i k) :
    j = k :=
  Option.some.inj ((leadsTo_iff.mp hj).2.symm.trans (leadsTo_iff.mp hk).2)

/-! ## Walks -/

/-- The failures that are visited from a first one: each points at the one behind it, none is
visited twice, and the last points at none that was not visited. -/
structure IsWalk (incidents : Incidents) (isFirst : Nat → Prop) (walk : List Nat) : Prop where
  first : ∀ i, walk.head? = some i ↔ isFirst i
  linked : walk.IsChain incidents.LeadsTo
  nodup : walk.Nodup
  ends : ∀ last ∈ walk.getLast?, ∀ i, incidents.LeadsTo last i → i ∈ walk

/-- Two ways along links that begin at one failure agree as far as both go. -/
theorem prefix_or_prefix (h : (i :: walk).IsChain incidents.LeadsTo)
    (hOther : (i :: other).IsChain incidents.LeadsTo) : walk <+: other ∨ other <+: walk := by
  induction walk generalizing i other with
  | nil => exact .inl List.nil_prefix
  | cons j walk ih =>
    cases other with
    | nil => exact .inr List.nil_prefix
    | cons k other =>
      rw [List.isChain_cons_cons] at h hOther
      obtain rfl := h.1.unique hOther.1
      simpa using ih h.2 hOther.2

namespace IsWalk

variable {isFirst : Nat → Prop}

theorem eq_of_prefix (h : incidents.IsWalk isFirst walk) (hOther : incidents.IsWalk isFirst other)
    (hNe : walk ≠ []) (hPrefix : walk <+: other) : walk = other := by
  obtain ⟨rest, rfl⟩ := hPrefix
  cases rest with
  | nil => exact (List.append_nil _).symm
  | cons k rest =>
    have hLast := List.getLast?_eq_some_getLast hNe
    have hTo : incidents.LeadsTo (walk.getLast hNe) k :=
      (List.isChain_append.mp hOther.linked).2.2 _ hLast _ rfl
    -- the other walk would go on to a failure that it has visited
    have hVisited := h.ends _ hLast k hTo
    exact absurd rfl ((List.nodup_append.mp hOther.nodup).2.2 k hVisited k List.mem_cons_self)

theorem unique (h : incidents.IsWalk isFirst walk) (hOther : incidents.IsWalk isFirst other) :
    walk = other := by
  cases walk with
  | nil =>
    cases other with
    | nil => rfl
    | cons i other => cases (h.first i).mpr ((hOther.first i).mp rfl)
  | cons i walk =>
    have hHead := (hOther.first i).mpr ((h.first i).mp rfl)
    obtain ⟨other, rfl⟩ := List.head?_eq_some_iff.mp hHead
    rcases prefix_or_prefix h.linked hOther.linked with hPrefix | hPrefix
    · exact h.eq_of_prefix hOther (List.cons_ne_nil _ _) (by simpa using hPrefix)
    · exact (hOther.eq_of_prefix h (List.cons_ne_nil _ _) (by simpa using hPrefix)).symm

/-- A walk goes on wherever a visited failure points. -/
theorem mem_of_leadsTo (h : incidents.IsWalk isFirst walk) (hi : i ∈ walk)
    (hTo : incidents.LeadsTo i j) : j ∈ walk := by
  obtain ⟨front, rest, rfl⟩ := List.append_of_mem hi
  cases rest with
  | nil => exact h.ends i (by simp) j hTo
  | cons k rest =>
    have hNext : incidents.LeadsTo i k := (List.isChain_append_cons_cons.mp h.linked).2.1
    rw [hTo.unique hNext]
    simp

/-- A walk visits what can be reached from the first failure. -/
theorem mem_iff (h : incidents.IsWalk isFirst walk) :
    i ∈ walk ↔ ∃ start, isFirst start ∧ Relation.ReflTransGen incidents.LeadsTo start i := by
  constructor
  · intro hi
    obtain ⟨front, rest, rfl⟩ := List.append_of_mem hi
    have hChain := (List.isChain_split.mp h.linked).1
    have hNe : front ++ [i] ≠ [] := by simp
    have hReach := List.relationReflTransGen_of_exists_isChain _ hChain hNe
    refine ⟨(front ++ [i]).head hNe, (h.first _).mp ?_, by simpa using hReach⟩
    cases front <;> rfl
  · rintro ⟨start, hFirst, hReach⟩
    have hStart : start ∈ walk := List.mem_of_head? ((h.first start).mpr hFirst)
    induction hReach with
    | refl => exact hStart
    | tail _ hTo ih => exact h.mem_of_leadsTo ih hTo

/-- Behind a first failure that is not on a circle, the walk is the one from where it points. -/
theorem tail (h : incidents.IsWalk (· = start) (start :: walk))
    (hNot : ¬Relation.TransGen incidents.LeadsTo start start) :
    incidents.IsWalk (incidents.LeadsTo start) walk where
  first i := by
    constructor
    · intro hHead
      exact (List.isChain_cons.mp h.linked).1 i hHead
    · intro hTo
      have hMem := h.mem_of_leadsTo List.mem_cons_self hTo
      cases walk with
      | nil =>
        rw [List.mem_singleton.mp hMem] at hTo
        exact absurd (.single hTo) hNot
      | cons k walk =>
        have hNext := (List.isChain_cons_cons.mp h.linked).1
        rw [hTo.unique hNext]
        rfl
  linked := (List.isChain_cons.mp h.linked).2
  nodup := h.nodup.of_cons
  ends last hLast i hTo := by
    have hMem : last ∈ start :: walk := List.mem_cons_of_mem _ (List.mem_of_getLast? hLast)
    obtain ⟨first, rfl, hReach⟩ := h.mem_iff.mp hMem
    rcases List.mem_cons.mp (h.mem_of_leadsTo hMem hTo) with rfl | hi
    · exact absurd (.tail' hReach hTo) hNot
    · exact hi

end IsWalk

/-! ## The walk that is taken -/

theorem mem_head?_walkFrom {unvisited : List Nat} {first : Option Nat} :
    i ∈ (walkFrom incidents unvisited first).head? ↔ first = some i ∧ i ∈ unvisited := by
  cases first with
  | none => simp [walkFrom]
  | some j =>
    rw [walkFrom]
    split
    · rename_i hj
      constructor
      · rintro ⟨⟩
        exact ⟨rfl, hj⟩
      · rintro ⟨⟨⟩, -⟩
        rfl
    · rename_i hj
      constructor
      · rintro ⟨⟩
      · rintro ⟨⟨⟩, hi⟩
        exact absurd hi hj

theorem linked_walkFrom {unvisited : List Nat} (hIn : ∀ i ∈ unvisited, i < incidents.length)
    (first : Option Nat) : (walkFrom incidents unvisited first).IsChain incidents.LeadsTo := by
  induction unvisited, first using walkFrom.induct incidents with
  | case1 unvisited => simp [walkFrom]
  | case2 unvisited i h ih =>
    have hErase : ∀ j ∈ unvisited.erase i, j < incidents.length :=
      fun j hj => hIn j (List.mem_of_mem_erase hj)
    rw [walkFrom, if_pos h, List.isChain_cons]
    refine ⟨fun j hj => ?_, ih hErase⟩
    obtain ⟨hNext, hj⟩ := mem_head?_walkFrom.mp hj
    exact leadsTo_iff.mpr ⟨hErase j hj, hNext⟩
  | case3 unvisited i h => simp [walkFrom, h]

/-- The last failure points at none of those that were left to visit. -/
theorem ends_walkFrom (unvisited : List Nat) (first : Option Nat) :
    ∀ last ∈ (walkFrom incidents unvisited first).getLast?,
      ∀ j ∈ unvisited, incidents.next? last = some j → j ∈ walkFrom incidents unvisited first := by
  induction unvisited, first using walkFrom.induct incidents with
  | case1 unvisited => simp [walkFrom]
  | case2 unvisited i h ih =>
    intro last hLast j hj hNext
    rw [walkFrom, if_pos h] at hLast ⊢
    by_cases hji : j = i
    · exact hji ▸ List.mem_cons_self
    have hErase : j ∈ unvisited.erase i := (List.mem_erase_of_ne hji).mpr hj
    refine List.mem_cons_of_mem _ ?_
    cases hRest : walkFrom incidents (unvisited.erase i) (incidents.next? i) with
    | nil =>
      rw [hRest] at hLast
      obtain rfl : last = i := by simpa using hLast.symm
      have hHead : j ∈ (walkFrom incidents (unvisited.erase last) (incidents.next? last)).head? :=
        mem_head?_walkFrom.mpr ⟨hNext, hErase⟩
      rw [hRest] at hHead
      cases hHead
    | cons k rest =>
      rw [← hRest]
      refine ih last ?_ j hErase hNext
      rw [hRest] at hLast ⊢
      rwa [List.getLast?_cons_cons] at hLast
  | case3 unvisited i h => simp [walkFrom, h]

theorem isWalk_walk (incidents : Incidents) (first : Option Nat) :
    incidents.IsWalk (fun i => i < incidents.length ∧ first = some i) (incidents.walk first) where
  first i := by
    rw [walk, ← Option.mem_def, mem_head?_walkFrom, List.mem_range, and_comm]
  linked := linked_walkFrom (fun i hi => List.mem_range.mp hi) first
  nodup := incidents.walk_nodup first
  ends last hLast i hTo := by
    obtain ⟨hi, hNext⟩ := leadsTo_iff.mp hTo
    exact ends_walkFrom _ _ last hLast i (List.mem_range.mpr hi) hNext

theorem isWalk_from (hStart : start < incidents.length) :
    incidents.IsWalk (· = start) (incidents.walk (some start)) := by
  have hFirst : (· = start) = fun i => i < incidents.length ∧ some start = some i := by
    funext i
    simp only [Option.some.injEq, eq_iff_iff]
    constructor
    · rintro rfl
      exact ⟨hStart, rfl⟩
    · exact fun h => h.2.symm
  exact hFirst ▸ incidents.isWalk_walk (some start)

theorem isWalk_behind (incidents : Incidents) (start : Nat) :
    incidents.IsWalk (incidents.LeadsTo start) (incidents.walk (incidents.next? start)) := by
  have hFirst : incidents.LeadsTo start =
      fun i => i < incidents.length ∧ incidents.next? start = some i :=
    funext fun i => propext leadsTo_iff
  exact hFirst ▸ incidents.isWalk_walk (incidents.next? start)

theorem length_walk_le (incidents : Incidents) (first : Option Nat) :
    (incidents.walk first).length ≤ incidents.length := by
  have hSubset : incidents.walk first ⊆ List.range incidents.length :=
    fun i hi => List.mem_range.mpr (incidents.walk_subset first i hi)
  simpa using ((incidents.walk_nodup first).subperm hSubset).length_le

/-- The walk from a failure and the walk behind it differ by that failure, unless it is on a
circle. -/
theorem walk_eq_cons_iff (hStart : start < incidents.length) :
    incidents.walk (some start) = start :: incidents.walk (incidents.next? start) ↔
      ¬Relation.TransGen incidents.LeadsTo start start := by
  have hWalk := isWalk_from hStart
  have hBehind := isWalk_behind incidents start
  constructor
  · intro hEq hCircle
    obtain ⟨first, hFirst, hBack⟩ := Relation.TransGen.head'_iff.mp hCircle
    have hMem : start ∈ incidents.walk (incidents.next? start) :=
      hBehind.mem_iff.mpr ⟨first, hFirst, hBack⟩
    rw [hEq] at hWalk
    exact (List.nodup_cons.mp hWalk.nodup).1 hMem
  · intro hNot
    obtain ⟨rest, hEq⟩ := List.head?_eq_some_iff.mp ((hWalk.first start).mpr rfl)
    rw [hEq] at hWalk ⊢
    rw [(hWalk.tail hNot).unique hBehind]

/-! ## Messages and causes -/

/-- The text of a failure. -/
def textAt (incidents : Incidents) (i : Nat) : Text := (incidents[i]?.map (·.text)).getD []

theorem messages_eq (incidents : Incidents) (start : Nat) :
    incidents.messages start = ((incidents.walk (some start)).filter fun i =>
      !(incidents.textAt i).isBlank).map fun i => (incidents.textAt i).firstLine := by
  rw [← List.filterMap_eq_map, List.filterMap_filter, messages]
  refine List.filterMap_congr fun i _ => ?_
  rw [Function.comp_apply, textAt]
  cases incidents[i]? with
  | none => rfl
  | some incident =>
    change firstLine? incident.text =
      if !incident.text.isBlank then some incident.text.firstLine else none
    rw [firstLine?_eq]
    cases incident.text.isBlank <;> rfl

theorem hint?_eq_none_iff (incidents : Incidents) (start : Nat) :
    incidents.hint? start = none ↔
      ∀ i ∈ incidents.walk (some start), (incidents.textAt i).isBlank = true := by
  rw [hint?, List.getLast?_eq_none_iff, messages_eq, List.map_eq_nil_iff, List.filter_eq_nil_iff]
  simp

theorem causes_eq (incidents : Incidents) (start : Nat) :
    (incidents.causes start).map some =
      (incidents.walk (incidents.next? start)).map fun i => incidents[i]? := by
  rw [causes, List.map_filterMap_some_eq_filter_map_isSome, List.filter_eq_self]
  simp only [List.mem_map, forall_exists_index, and_imp, forall_apply_eq_imp_iff₂]
  intro i hi
  simpa using incidents.walk_subset _ i hi

/-- There is one walk from a failure and one behind it, along as many failures as there are at
most. The messages are the first lines of what is visited and not blank, the hint is the last of
them, and the causes are what is visited behind the failure: all but itself, unless it is on a
circle. -/
theorem summary_complete (incidents : Incidents) {start : Nat} (hStart : start < incidents.length) :
    (∀ walk, incidents.IsWalk (· = start) walk ↔ walk = incidents.walk (some start)) ∧
    (∀ walk, incidents.IsWalk (incidents.LeadsTo start) walk ↔
      walk = incidents.walk (incidents.next? start)) ∧
    (∀ first, (incidents.walk first).length ≤ incidents.length) ∧
    (∀ i, i ∈ incidents.walk (some start) ↔ Relation.ReflTransGen incidents.LeadsTo start i) ∧
    incidents.messages start = ((incidents.walk (some start)).filter fun i =>
      !(incidents.textAt i).isBlank).map (fun i => (incidents.textAt i).firstLine) ∧
    (∀ message ∈ incidents.messages start, message ≠ []) ∧
    (∀ front message, incidents.messages start = front ++ [message] →
      incidents.hint? start = some message) ∧
    (incidents.hint? start = none ↔
      ∀ i ∈ incidents.walk (some start), (incidents.textAt i).isBlank = true) ∧
    (incidents.causes start).map some =
      (incidents.walk (incidents.next? start)).map (fun i => incidents[i]?) ∧
    (incidents.walk (some start) = start :: incidents.walk (incidents.next? start) ↔
      ¬Relation.TransGen incidents.LeadsTo start start) := by
  have hWalk := isWalk_from hStart
  have hBehind := isWalk_behind incidents start
  have hReach : ∀ i, i ∈ incidents.walk (some start) ↔
      Relation.ReflTransGen incidents.LeadsTo start i := by
    intro i
    rw [hWalk.mem_iff, exists_eq_left]
  have hLast : ∀ front message, incidents.messages start = front ++ [message] →
      incidents.hint? start = some message := by
    intro front message hMessages
    rw [hint?, hMessages, List.getLast?_concat]
  exact ⟨fun walk => ⟨fun h => h.unique hWalk, fun h => h ▸ hWalk⟩,
    fun walk => ⟨fun h => h.unique hBehind, fun h => h ▸ hBehind⟩,
    incidents.length_walk_le, hReach, incidents.messages_eq start, incidents.messages_ne_nil start,
    hLast, incidents.hint?_eq_none_iff start, incidents.causes_eq start, walk_eq_cons_iff hStart⟩

/-- A failure in front of two that point at each other, the second of them blank. -/
def beforeCircle : Incidents :=
  [⟨"A".toList, " top \r\n more ".toList, some 1, some 2⟩,
    ⟨"B".toList, "\t\n".toList, none, some 2⟩,
    ⟨"C".toList, "end".toList, some 1, none⟩]

theorem summary_complete_beforeCircle :
    0 < beforeCircle.length ∧ beforeCircle.walk (some 0) = [0, 1, 2] ∧
    beforeCircle.messages 0 = ["top".toList, "end".toList] ∧
    beforeCircle.hint? 0 = some "end".toList ∧
    (beforeCircle.causes 0).map some = [beforeCircle[1]?, beforeCircle[2]?] ∧
    ¬Relation.TransGen beforeCircle.LeadsTo 0 0 := by
  have hFirst : beforeCircle.LeadsTo 0 1 := leadsTo_iff.mpr ⟨by decide, rfl⟩
  have hSecond : beforeCircle.LeadsTo 1 2 := leadsTo_iff.mpr ⟨by decide, rfl⟩
  have hEnds : ∀ i, beforeCircle.LeadsTo 2 i → i = 1 := by
    intro i hTo
    exact hTo.unique (leadsTo_iff.mpr ⟨by decide, rfl⟩)
  have hWalk : beforeCircle.IsWalk (· = 0) [0, 1, 2] := by
    refine ⟨fun i => ?_, by simp [hFirst, hSecond], by decide, ?_⟩
    · simp [eq_comm]
    · rintro _ ⟨⟩ i hTo
      simp [hEnds i hTo]
  have hBehind : beforeCircle.IsWalk (beforeCircle.LeadsTo 0) [1, 2] := by
    refine ⟨fun i => ⟨?_, fun hTo => ?_⟩, by simp [hSecond], by decide, ?_⟩
    · rintro ⟨⟩
      exact hFirst
    · rw [hTo.unique hFirst]
      rfl
    · rintro _ ⟨⟩ i hTo
      simp [hEnds i hTo]
  have hStart : 0 < beforeCircle.length := by decide
  obtain ⟨hUnique, hUniqueBehind, -, -, hMessages, -, hHint, -, hCauses, hCircle⟩ :=
    summary_complete beforeCircle hStart
  rw [← (hUnique _).mp hWalk] at hMessages hCircle ⊢
  rw [← (hUniqueBehind _).mp hBehind] at hCauses hCircle
  have hShown : beforeCircle.messages 0 = ["top".toList, "end".toList] :=
    hMessages.trans (by decide)
  exact ⟨hStart, rfl, hShown, hHint ["top".toList] _ hShown, hCauses, hCircle.mp rfl⟩

end Incidents

end Excerpt
