import Excerpt.Proofs.Render.Shift
import Excerpt.Proofs.Render.Survival
import Mathlib.Data.List.TakeWhile

/-!
# Indentation that is changed twice

A line is a run of spaces and what stands behind it. A change of its indentation makes the run
longer or shorter, down to no space at all, and leaves the rest alone. So a change and another one
behind it come to the same as their sum, as long as the first does not cut off what the second would
give back. An empty line stays empty, and nothing is cut off it.

* `shiftIndent_spaces`: the run of spaces behind a change.
* `shiftIndent_shiftIndent`: one line, changed twice.
* `Rendering.lines_withIndent`: the lines of a block, rendered and then changed.
* `Rendering.indentation_adds_up`: lines and blocks.
-/

namespace Excerpt

variable {n : Nat} {line rest : Text} {a b change : Int}

/-! ## A line -/

theorem leadingSpaces_append (hRest : rest.head? ≠ some ' ') :
    leadingSpaces (List.replicate n ' ' ++ rest) = n := by
  have hNone : rest.takeWhile (· == ' ') = [] := by
    cases rest with
    | nil => rfl
    | cons c rest =>
      rw [List.head?_cons, Ne, Option.some.injEq] at hRest
      exact List.takeWhile_cons_of_neg (by simpa using hRest)
  have hRun : ∀ c ∈ List.replicate n ' ', (c == ' ') = true := by
    intro c hc
    simp [List.eq_of_mem_replicate hc]
  unfold leadingSpaces
  rw [List.takeWhile_append_of_pos hRun, hNone, List.append_nil, List.length_replicate]

/-- Every line is a run of spaces and what stands behind it. -/
theorem exists_spaces (line : Text) :
    ∃ n rest, line = List.replicate n ' ' ++ rest ∧ rest.head? ≠ some ' ' := by
  refine ⟨leadingSpaces line, line.dropWhile (· == ' '), ?_, ?_⟩
  · have hRun : List.replicate (leadingSpaces line) ' ' = line.takeWhile (· == ' ') := by
      refine (List.eq_replicate_of_mem fun c hc => ?_).symm
      simpa using List.mem_takeWhile_imp hc
    rw [hRun, List.takeWhile_append_dropWhile]
  · intro hHead
    have hNot := List.head?_dropWhile_not (· == ' ') line
    rw [hHead] at hNot
    simp at hNot

/-- A change adds to the spaces in front, as far as there are any to take away. -/
theorem shiftIndent_spaces (hRest : rest.head? ≠ some ' ')
    (h : change ≤ 0 ∨ List.replicate n ' ' ++ rest ≠ [] ∧ change ≤ Fault.sizeLimit) :
    shiftIndent (List.replicate n ' ' ++ rest) change =
      .ok (List.replicate (n + change).toNat ' ' ++ rest) := by
  by_cases hLess : change ≤ 0
  · have hLeft : n - min n (-change).toNat = (n + change).toNat := by omega
    have hWithin : min n (-change).toNat ≤ (List.replicate n ' ').length := by
      rw [List.length_replicate]
      exact Nat.min_le_left _ _
    rw [shiftIndent_neg _ hLess, leadingSpaces_append hRest, List.drop_append_of_le_length hWithin,
      List.drop_replicate, hLeft]
  · obtain ⟨hText, hLimit⟩ := h.resolve_left hLess
    have hMore : (n + change).toNat = change.toNat + n := by omega
    unfold shiftIndent
    rw [if_pos (Int.not_le.mp hLess), if_neg (by simpa using hText), if_neg (Int.not_lt.mpr hLimit),
      hMore, ← List.append_assoc, List.replicate_append_replicate]

/-- Only in front of some text can there be too many spaces. -/
theorem shiftIndent_ne_error_iff :
    shiftIndent line change ≠ .error .sizeTooLarge ↔ line = [] ∨ change ≤ Fault.sizeLimit := by
  rw [Ne, shiftIndent_eq_error_iff]
  simp only [and_true, not_and_or, not_not, Int.not_lt, ne_eq]

theorem exists_shiftIndent_iff :
    (∃ shifted, shiftIndent line change = .ok shifted) ↔
      line = [] ∨ change ≤ Fault.sizeLimit := by
  rw [← shiftIndent_ne_error_iff]
  cases h : shiftIndent line change with
  | error fault =>
    obtain ⟨-, -, rfl⟩ := shiftIndent_eq_error_iff.mp h
    simp
  | ok shifted => simp

/-- One change behind another is their sum. -/
theorem shiftIndent_shiftIndent (hSign : 0 ≤ a ∨ b ≤ 0)
    (hFirst : line = [] ∨ a ≤ Fault.sizeLimit) (hSum : line = [] ∨ a + b ≤ Fault.sizeLimit) :
    (shiftIndent line a >>= fun line => shiftIndent line b) = shiftIndent line (a + b) := by
  by_cases hText : line = []
  · rw [hText, shiftIndent_empty, shiftIndent_empty]
    exact shiftIndent_empty b
  · replace hFirst := hFirst.resolve_left hText
    replace hSum := hSum.resolve_left hText
    obtain ⟨n, rest, rfl, hRest⟩ := exists_spaces line
    rw [shiftIndent_spaces hRest (.inr ⟨hText, hFirst⟩),
      shiftIndent_spaces hRest (.inr ⟨hText, hSum⟩)]
    -- an empty line is left only if spaces were taken away, and then no more are put in front
    have hSecond : b ≤ 0 ∨ List.replicate (n + a).toNat ' ' ++ rest ≠ [] ∧ b ≤ Fault.sizeLimit := by
      by_cases hLess : b ≤ 0
      · exact .inl hLess
      · refine .inr ⟨fun hEmpty => hText ?_, by omega⟩
        obtain ⟨hSpaces, rfl⟩ := List.append_eq_nil_iff.mp hEmpty
        have hNone : n = 0 := by
          rw [List.replicate_eq_nil_iff] at hSpaces
          omega
        rw [hNone]
        rfl
    have hAll : ((n + a).toNat + b).toNat = (n + (a + b)).toNat := by omega
    exact (shiftIndent_spaces hRest hSecond).trans (by rw [hAll])

/-- What was put in front is taken away again. -/
theorem shiftIndent_neg_shiftIndent (ha : 0 ≤ a) (hFirst : line = [] ∨ a ≤ Fault.sizeLimit) :
    (shiftIndent line a >>= fun line => shiftIndent line (-a)) = .ok line := by
  have hSum : line = [] ∨ a + -a ≤ Fault.sizeLimit := .inr (by omega)
  rw [shiftIndent_shiftIndent (.inl ha) hFirst hSum, Int.add_right_neg, shiftIndent_zero]

/-! ## Computations, one behind the other -/

/-- A list ends with a fault if its first member does or, behind that, the rest. -/
theorem mapM_cons_ne_error_iff {ε α β : Type} {f : α → Except ε β} {x : α} {xs : List α} {e : ε} :
    (x :: xs).mapM f ≠ .error e ↔ f x ≠ .error e ∧ ∀ y, f x = .ok y → xs.mapM f ≠ .error e := by
  rw [List.mapM_cons, Ne, bind_eq_error_iff]
  simp only [bind_eq_error_iff, not_or, not_exists, not_and]
  exact and_congr_right fun _ => forall₂_congr fun y _ => ⟨And.left, fun h => ⟨h, nofun⟩⟩

/-- Two computations for the members of a list, one behind the other, can be done with each member
at once if the second adds but one fault and neither way ends with that. -/
theorem mapM_bind_mapM {ε α β γ : Type} {f : α → Except ε β} {g : α → Except ε γ}
    {h : β → Except ε γ} {stop : ε} (hStop : ∀ b e, h b = .error e → e = stop) {xs : List α}
    (hEach : ∀ x ∈ xs, f x ≠ .error stop → g x ≠ .error stop → f x >>= h = g x)
    (hf : xs.mapM f ≠ .error stop) (hg : xs.mapM g ≠ .error stop) :
    xs.mapM f >>= List.mapM h = xs.mapM g := by
  induction xs with
  | nil => rfl
  | cons x xs ih =>
    obtain ⟨hOne, hRest⟩ := List.forall_mem_cons.mp hEach
    obtain ⟨hfOne, hfRest⟩ := mapM_cons_ne_error_iff.mp hf
    obtain ⟨hgOne, hgRest⟩ := mapM_cons_ne_error_iff.mp hg
    have hBoth := hOne hfOne hgOne
    rw [List.mapM_cons, List.mapM_cons, ← hBoth]
    cases hF : f x with
    | error e => rfl
    | ok y =>
      rw [hF] at hBoth
      cases hH : h y with
      | error e =>
        rw [hStop y e hH] at hH
        exact absurd (hBoth.symm.trans hH) hgOne
      | ok z =>
        have hAll := ih hRest (hfRest y hF) (hgRest z (hBoth.symm.trans hH))
        have hFirst (ys : List β) :
            List.mapM h (y :: ys) = List.mapM h ys >>= fun zs => .ok (z :: zs) := by
          rw [List.mapM_cons, hH]
          rfl
        calc (xs.mapM f >>= fun ys => .ok (y :: ys)) >>= List.mapM h
          _ = xs.mapM f >>= fun ys => List.mapM h ys >>= fun zs => .ok (z :: zs) := by
            rw [bind_assoc]
            exact bind_congr hFirst
          _ = xs.mapM g >>= fun zs => .ok (z :: zs) := by rw [← bind_assoc, hAll]
          _ = h y >>= fun z => xs.mapM g >>= fun zs => .ok (z :: zs) := by
            rw [hH]
            rfl

/-- What is done with the members that are kept can be done before the others are dropped. -/
theorem mapM_filterMap_id {ε β γ : Type} (h : β → Except ε γ) (ys : List (Option β)) :
    (ys.filterMap id).mapM h = (ys.mapM (Option.mapM h)).map (List.filterMap id) := by
  induction ys with
  | nil => rfl
  | cons y ys ih =>
    rw [List.mapM_cons]
    cases y with
    | none =>
      change (ys.filterMap id).mapM h = _
      rw [ih]
      cases ys.mapM (Option.mapM h) <;> rfl
    | some b =>
      change (b :: ys.filterMap id).mapM h = _
      rw [List.mapM_cons, ih]
      change _ = Except.map _ ((h b >>= fun c => .ok (some c)) >>= _)
      cases h b with
      | error e => rfl
      | ok c => cases ys.mapM (Option.mapM h) <;> rfl

/-! ## Blocks -/

/-- Whether no highlight names a line of the block. -/
def Highlights.Misses (h : Highlights) (block : CodeBlock) : Prop :=
  ∀ p ∈ block.numbered, ∀ item ∈ h.items, item.contains p.1 = false

theorem Highlights.apply_of_not_contains {h : Highlights} {number : Int}
    (hItems : ∀ item ∈ h.items, item.contains number = false) (line : Text) :
    h.apply line number = ([], line) := by
  apply apply_unmarked
  · refine List.filterMap_eq_nil_iff.mpr fun item hItem => ?_
    have hNot := hItems item hItem
    cases item with
    | columns item => simpa [Item.contains] using hNot
    | line item => rfl
    | range item => rfl
  · refine List.any_eq_false.mpr fun item hItem => ?_
    have hNot := hItems item hItem
    cases item with
    | columns item => exact Bool.false_ne_true
    | line item => simpa using hNot
    | range item => simpa using hNot

namespace Rendering

variable {r : Rendering} {block : CodeBlock} {raw : Text}

/-- The same rendering with another change of the indentation. -/
def withIndent (r : Rendering) (indent : Int) : Rendering :=
  { r with options := { r.options with indent := indent } }

theorem line_withIndent_eq_bind (hItems : ∀ item ∈ r.highlights.items, item.contains n = false)
    (indent : Int) : (r.withIndent indent).line block n raw =
      r.edited block n raw >>= Option.mapM fun line => shiftIndent line indent := by
  have hFinished (left : Text) :
      (r.withIndent indent).finished n left = shiftIndent left indent := by
    unfold finished
    rw [show (r.withIndent indent).highlights = r.highlights from rfl,
      Highlights.apply_of_not_contains hItems]
    exact congrFun Except.map_id (shiftIndent left indent)
  rw [line_eq_bind]
  change r.edited block n raw >>= _ = _
  refine bind_congr fun edited => ?_
  cases edited with
  | none => rfl
  | some left =>
    dsimp only
    rw [hFinished]
    rfl

theorem line_withIndent (hItems : ∀ item ∈ r.highlights.items, item.contains n = false)
    (hSign : 0 ≤ a ∨ b ≤ 0) (hFirst : (r.withIndent a).line block n raw ≠ .error .sizeTooLarge)
    (hSum : (r.withIndent (a + b)).line block n raw ≠ .error .sizeTooLarge) :
    ((r.withIndent a).line block n raw >>= Option.mapM fun line => shiftIndent line b) =
      (r.withIndent (a + b)).line block n raw := by
  rw [line_withIndent_eq_bind hItems] at hFirst hSum ⊢
  rw [line_withIndent_eq_bind hItems]
  cases hEdited : r.edited block n raw with
  | error fault => rfl
  | ok edited =>
    cases edited with
    | none => rfl
    | some left =>
      have hLeft {change : Int} (h : (Except.ok (some left) >>= Option.mapM fun line =>
          shiftIndent line change) ≠ Except.error Fault.sizeTooLarge) :
          left = [] ∨ change ≤ Fault.sizeLimit :=
        shiftIndent_ne_error_iff.mp fun hError => h (map_eq_error_iff.mpr hError)
      rw [hEdited] at hFirst hSum
      change ((shiftIndent left a).map some >>= _) = (shiftIndent left (a + b)).map some
      rw [← shiftIndent_shiftIndent hSign (hLeft hFirst) (hLeft hSum)]
      cases shiftIndent left a <;> rfl

/-- A block whose lines are not highlighted is rendered with the sum of two changes as it is with
the first and each line then changed by the second. -/
theorem lines_withIndent (hMisses : r.highlights.Misses block) (hSign : 0 ≤ a ∨ b ≤ 0)
    (hFirst : (r.withIndent a).lines block ≠ .error .sizeTooLarge)
    (hSum : (r.withIndent (a + b)).lines block ≠ .error .sizeTooLarge) :
    ((r.withIndent a).lines block >>= List.mapM fun line => shiftIndent line b) =
      (r.withIndent (a + b)).lines block := by
  rw [lines_eq_map] at hFirst hSum ⊢
  rw [lines_eq_map]
  have hStop : ∀ (edited : Option Text) (fault : Fault),
      (edited.mapM fun line => shiftIndent line b) = .error fault → fault = .sizeTooLarge := by
    intro edited fault h
    cases edited with
    | none => cases h
    | some left => exact (shiftIndent_eq_error_iff.mp (map_eq_error_iff.mp h)).2.2
  have hEach := mapM_bind_mapM hStop (fun p hp => line_withIndent (hMisses p hp) hSign)
    (fun h => hFirst (map_eq_error_iff.mpr h)) (fun h => hSum (map_eq_error_iff.mpr h))
  rw [← hEach]
  cases block.numbered.mapM fun p => (r.withIndent a).line block p.1 p.2 with
  | error fault => rfl
  | ok edited => exact mapM_filterMap_id _ edited

/-- Changes of the indentation add up, for a line and for a block whose lines are not highlighted,
as long as no more spaces are put in front than can be counted. What is taken away are spaces at the
beginning, as many as are asked for or as many as there are. -/
theorem indentation_adds_up (a b : Int) (hSign : 0 ≤ a ∨ b ≤ 0) :
    (∀ line, line = [] ∨ a ≤ Fault.sizeLimit ∧ a + b ≤ Fault.sizeLimit → ∃ shifted,
      (shiftIndent line a >>= fun line => shiftIndent line b) = .ok shifted ∧
      shiftIndent line (a + b) = .ok shifted) ∧
    (0 ≤ a → ∀ line, line = [] ∨ a ≤ Fault.sizeLimit →
      (shiftIndent line a >>= fun line => shiftIndent line (-a)) = .ok line) ∧
    (∀ (line : Text) (change : Int), change ≤ 0 → ∃ n rest,
      line = List.replicate n ' ' ++ rest ∧ rest.head? ≠ some ' ' ∧
      shiftIndent line change =
        .ok (List.replicate (n - min change.natAbs n) ' ' ++ rest)) ∧
    ∀ (r : Rendering) (block : CodeBlock), r.highlights.Misses block →
      (r.withIndent a).lines block ≠ .error .sizeTooLarge →
      (r.withIndent (a + b)).lines block ≠ .error .sizeTooLarge →
      ((r.withIndent a).lines block >>= List.mapM fun line => shiftIndent line b) =
        (r.withIndent (a + b)).lines block := by
  refine ⟨?_, fun ha _ => shiftIndent_neg_shiftIndent ha, ?_,
    fun _ _ hMisses => lines_withIndent hMisses hSign⟩
  · intro line hLimit
    have hFirst : line = [] ∨ a ≤ Fault.sizeLimit := hLimit.imp_right And.left
    have hSum : line = [] ∨ a + b ≤ Fault.sizeLimit := hLimit.imp_right And.right
    obtain ⟨shifted, hShifted⟩ := exists_shiftIndent_iff.mpr hSum
    exact ⟨shifted, (shiftIndent_shiftIndent hSign hFirst hSum).trans hShifted, hShifted⟩
  · intro line change hLess
    obtain ⟨n, rest, rfl, hRest⟩ := exists_spaces line
    have hLeft : n - min change.natAbs n = (n + change).toNat := by omega
    exact ⟨n, rest, rfl, hRest, by rw [shiftIndent_spaces hRest (.inl hLess), hLeft]⟩

/-- Two spaces more and then three less, which is one too many for the empty line and the last. -/
theorem indentation_adds_up_outdented :
    ∃ (r : Rendering) (block : CodeBlock), r.highlights.Misses block ∧
      (r.withIndent 2).lines block = .ok ["    x".toList, [], "  y".toList] ∧
      (["    x".toList, [], "  y".toList].mapM fun line => shiftIndent line (-3)) =
        .ok [" x".toList, [], "y".toList] ∧
      (r.withIndent (-1)).lines block = .ok [" x".toList, [], "y".toList] ∧
      (shiftIndent "  x".toList 2 >>= fun line => shiftIndent line (-2)) = .ok "  x".toList := by
  let r : Rendering := ⟨.slashes, ⟨[.line ⟨4, by decide⟩], .absolute⟩, {}, {}⟩
  let block : CodeBlock :=
    ⟨⟨1, 3, by decide, by decide⟩, ["  x".toList, [], "y".toList]⟩
  have hMisses : r.highlights.Misses block := by unfold Highlights.Misses; decide
  have hFirst : (r.withIndent 2).lines block = .ok ["    x".toList, [], "  y".toList] := by rfl
  have hSum : (r.withIndent (2 + -3)).lines block ≠ .error .sizeTooLarge := by
    exact lines_ne_sizeTooLarge (by decide) block
  obtain ⟨-, hBack, -, hBlock⟩ := indentation_adds_up 2 (-3) (.inl (by decide))
  have hBoth := hBlock r block hMisses (by rw [hFirst]; exact nofun) hSum
  rw [hFirst] at hBoth
  exact ⟨r, block, hMisses, hFirst, rfl, hBoth.symm, hBack (by decide) _ (.inr (by decide))⟩

end Rendering

end Excerpt
