import Excerpt.Proofs.Render.Order
import Mathlib.Data.List.TakeWhile

/-!
# The order of highlights

What is highlighted decides neither which lines of a block are kept nor whether it can be rendered,
and two lines of the same length stay apart when their indentation is changed. So a block is
rendered alike with its highlights in every order exactly if each line that is kept is marked alike.

* `shiftIndent_injective`: what a change of the indentation keeps apart.
* `Rendering.lines_withItems_iff`: two orders of the highlights.
* `Rendering.lines_perm_iff`: all orders, for a block.
* `Rendering.reorder_iff`: the same together with its lines.
-/

namespace Excerpt

/-! ## Indentation -/

/-- Whether the indentation can be changed depends on no more than the length of the line. -/
theorem shiftIndent_form {t u : Text} (hLength : t.length = u.length) (change : Int) :
    (shiftIndent t change).map (fun _ => ()) = (shiftIndent u change).map fun _ => () := by
  have hEmpty : t.isEmpty = u.isEmpty := by
    rw [Bool.eq_iff_iff, List.isEmpty_iff_length_eq_zero, List.isEmpty_iff_length_eq_zero, hLength]
  unfold shiftIndent
  rw [hEmpty]
  split
  · split
    · rfl
    · split <;> rfl
  · rfl

theorem exists_spaces_of_shiftIndent {t v : Text} {change : Int} (hChange : ¬ 0 < change)
    (h : shiftIndent t change = .ok v) : ∃ k, t = List.replicate k ' ' ++ v := by
  rw [shiftIndent_neg t (Int.not_lt.mp hChange)] at h
  cases h
  have hSpaces : ∀ x ∈ t.take (min (leadingSpaces t) (-change).toNat), x = ' ' := by
    intro x hx
    have hRun : t.take (leadingSpaces t) = t.takeWhile (· == ' ') :=
      (List.prefix_iff_eq_take.mp (List.takeWhile_prefix _)).symm
    rw [Nat.min_comm, ← List.take_take, hRun] at hx
    simpa using List.mem_takeWhile_imp (List.mem_of_mem_take hx)
  refine ⟨(t.take (min (leadingSpaces t) (-change).toNat)).length, ?_⟩
  rw [← List.eq_replicate_of_mem hSpaces, List.take_append_drop]

/-- Lines of the same length stay apart when their indentation is changed. -/
theorem shiftIndent_injective {t u v : Text} {change : Int} (hLength : t.length = u.length)
    (ht : shiftIndent t change = .ok v) (hu : shiftIndent u change = .ok v) : t = u := by
  by_cases hChange : 0 < change
  · unfold shiftIndent at ht hu
    rw [if_pos hChange] at ht hu
    cases t with
    | nil => exact (List.length_eq_zero_iff.mp hLength.symm).symm
    | cons x t =>
      cases u with
      | nil => cases hLength
      | cons y u =>
        by_cases hLimit : (Fault.sizeLimit : Int) < change
        · simp [hLimit] at ht
        · simp only [List.isEmpty_cons, Bool.false_eq_true, if_false, if_neg hLimit] at ht hu
          exact List.append_cancel_left (Except.ok.inj (ht.trans hu.symm))
  · obtain ⟨k, hT⟩ := exists_spaces_of_shiftIndent hChange ht
    obtain ⟨l, hU⟩ := exists_spaces_of_shiftIndent hChange hu
    have hSame : k = l := by
      rw [hT, hU] at hLength
      simpa using hLength
    rw [hT, hU, hSame]

/-! ## Blocks -/

theorem eq_of_filterMap_id {β : Type} {xs ys : List (Option β)}
    (hForm : xs.map Option.isSome = ys.map Option.isSome)
    (h : xs.filterMap id = ys.filterMap id) : xs = ys := by
  induction xs generalizing ys with
  | nil => exact (List.map_eq_nil_iff.mp hForm.symm).symm
  | cons x xs ih =>
    cases ys with
    | nil => cases hForm
    | cons y ys =>
      obtain ⟨hFirst, hRest⟩ := List.cons_eq_cons.mp hForm
      cases x with
      | none =>
        obtain rfl : y = none := by simpa using hFirst.symm
        rw [ih hRest h]
      | some a =>
        obtain ⟨b, rfl⟩ : ∃ b, y = some b := Option.isSome_iff_exists.mp hFirst.symm
        obtain ⟨rfl, hTail⟩ := List.cons_eq_cons.mp h
        rw [ih hRest hTail]

/-- Two computations that keep the same members of a list give the same if both fail, or if they
agree on every member. -/
theorem mapM_filterMap_eq_iff {ε α β : Type} {f g : α → Except ε (Option β)} {xs : List α}
    (hForm : ∀ a ∈ xs, (f a).map Option.isSome = (g a).map Option.isSome) :
    (xs.mapM f).map (List.filterMap id) = (xs.mapM g).map (List.filterMap id) ↔
      (∃ e, (xs.mapM g).map (List.filterMap id) = .error e) ∨ ∀ a ∈ xs, f a = g a := by
  have hAll : (xs.mapM f).map (List.map Option.isSome) =
      (xs.mapM g).map (List.map Option.isSome) := by
    have hF := map_mapM Option.isSome f xs
    have hG := map_mapM Option.isSome g xs
    exact hF.symm.trans ((mapM_congr_mem hForm).trans hG)
  cases hF : xs.mapM f with
  | error e =>
    cases hG : xs.mapM g with
    | error e' =>
      rw [hF, hG] at hAll
      cases hAll
      exact iff_of_true rfl (.inl ⟨e, rfl⟩)
    | ok rs => simp [hF, hG, Except.map] at hAll
  | ok rs =>
    cases hG : xs.mapM g with
    | error e => simp [hF, hG, Except.map] at hAll
    | ok rs' =>
      rw [hF, hG] at hAll
      constructor
      · intro h
        obtain rfl : rs = rs' := eq_of_filterMap_id (Except.ok.inj hAll) (Except.ok.inj h)
        have hSame : List.Forall₂ (fun a _ => f a = g a) xs rs :=
          List.Forall₂.mp (fun _ _ hf hg => hf.trans hg.symm) (mapM_eq_ok_iff.mp hF)
            (mapM_eq_ok_iff.mp hG)
        refine .inr fun a ha => ?_
        obtain ⟨-, -, h⟩ := exists_of_forall₂ hSame ha
        exact h
      · rintro (⟨e, h⟩ | h)
        · cases h
        · rw [mapM_congr_mem h, hG] at hF
          rw [hF]

namespace Rendering

variable {r : Rendering} {items : List Item} {block : CodeBlock} {n : Nat} {raw left : Text}

/-- The same rendering with other highlights. -/
def withItems (r : Rendering) (items : List Item) : Rendering :=
  { r with highlights := ⟨items, r.highlights.mode⟩ }

theorem edited_withItems (r : Rendering) (items : List Item) :
    (r.withItems items).edited = r.edited := rfl

theorem finished_form (hItems : items.Perm r.highlights.items) (n : Nat) (left : Text) :
    ((r.withItems items).finished n left).map (fun _ => ()) =
      (r.finished n left).map fun _ => () := by
  have hForget (x : Except Fault Text) (f : Text → Text) :
      (x.map f).map (fun _ => ()) = x.map fun _ => () := by
    cases x <;> rfl
  have hLength := Highlights.apply_perm_length hItems left n
  exact (hForget _ _).trans ((shiftIndent_form hLength r.options.indent).trans (hForget _ _).symm)

theorem finished_injective {text : Text} (hItems : items.Perm r.highlights.items)
    (h : (r.withItems items).finished n left = .ok text) (h' : r.finished n left = .ok text) :
    (r.withItems items).highlights.apply left n = r.highlights.apply left n := by
  by_cases hColumns : r.highlights.columnsOf n = []
  · exact Highlights.apply_perm_of_nil hItems hColumns left
  · have hSome := mt (Highlights.columnsOf_perm_eq_nil_iff hItems n).mp hColumns
    have hLength := Highlights.apply_perm_length hItems left n
    have hApply := Highlights.apply_of_columns hColumns left
    have hApply' := Highlights.apply_of_columns hSome left
    unfold finished at h h'
    rw [hApply] at h' hLength
    rw [withItems, hApply'] at h
    rw [hApply'] at hLength
    obtain ⟨v, hShift, hText⟩ := map_eq_ok_iff.mp h
    obtain ⟨v', hShift', hText'⟩ := map_eq_ok_iff.mp h'
    obtain rfl : v = v' := hText.trans hText'.symm
    rw [withItems, hApply, hApply']
    exact congrArg (Prod.mk []) (shiftIndent_injective hLength hShift hShift')

theorem line_of_edited (h : r.edited block n raw = .ok (some left)) :
    r.line block n raw = (r.finished n left).map some := by
  rw [line, h]

theorem line_form (hItems : items.Perm r.highlights.items) (block : CodeBlock) (n : Nat)
    (raw : Text) : ((r.withItems items).line block n raw).map Option.isSome =
      (r.line block n raw).map Option.isSome := by
  cases hEdited : r.edited block n raw with
  | error fault => simp only [line, edited_withItems, hEdited]
  | ok edited =>
    cases edited with
    | none => simp only [line, edited_withItems, hEdited]
    | some left =>
      have hKept (x : Except Fault Text) :
          (x.map some).map Option.isSome = (x.map fun _ => ()).map fun _ => true := by
        cases x <;> rfl
      have hEdited' : (r.withItems items).edited block n raw = .ok (some left) := hEdited
      rw [line_of_edited hEdited, line_of_edited hEdited', hKept, hKept, finished_form hItems]

/-- A block is rendered alike with its highlights in two orders exactly if it cannot be rendered
or each of its lines is marked alike. -/
theorem lines_withItems_iff (hItems : items.Perm r.highlights.items) :
    (r.withItems items).lines block = r.lines block ↔ (∃ fault, r.lines block = .error fault) ∨
      ∀ p ∈ block.numbered, (r.withItems items).line block p.1 p.2 = r.line block p.1 p.2 := by
  rw [lines_eq_map, lines_eq_map]
  exact mapM_filterMap_eq_iff fun p _ => line_form hItems block p.1 p.2

theorem exists_line_of_lines {rendered : List Text} (h : r.lines block = .ok rendered)
    {p : Nat × Text} (hp : p ∈ block.numbered) : ∃ line, r.line block p.1 p.2 = .ok line := by
  rw [lines_eq_map] at h
  obtain ⟨all, hAll, -⟩ := map_eq_ok_iff.mp h
  obtain ⟨line, -, hLine⟩ := ok_of_mapM hAll hp
  exact ⟨line, hLine⟩

/-- A block is rendered alike with its highlights in every order exactly if it cannot be rendered
or no order is seen in any of its lines. -/
theorem lines_perm_iff (r : Rendering) (block : CodeBlock) :
    (∀ items, items.Perm r.highlights.items →
      (r.withItems items).lines block = r.lines block) ↔
      (∃ fault, r.lines block = .error fault) ∨
        ∀ n raw left, (n, raw) ∈ block.numbered → r.edited block n raw = .ok (some left) →
          Highlights.Steady (r.highlights.columnsOf n) left := by
  constructor
  · intro hSame
    cases hLines : r.lines block with
    | error fault => exact .inl ⟨fault, rfl⟩
    | ok rendered =>
      refine .inr fun n raw left hNumbered hEdited => ?_
      refine Highlights.apply_perm_iff.mp fun items hItems => ?_
      have hLine : (r.withItems items).line block n raw = r.line block n raw := by
        rcases (lines_withItems_iff hItems).mp (hSame items hItems) with ⟨fault, hFault⟩ | hAll
        · rw [hLines] at hFault
          cases hFault
        · exact hAll (n, raw) hNumbered
      obtain ⟨line, hOk⟩ := exists_line_of_lines hLines hNumbered
      have hOk' := hLine.trans hOk
      rw [line_of_edited hEdited] at hOk
      rw [line_of_edited (r := r.withItems items) hEdited] at hOk'
      obtain ⟨text, hText, rfl⟩ := map_eq_ok_iff.mp hOk
      obtain ⟨text', hText', hSome⟩ := map_eq_ok_iff.mp hOk'
      obtain rfl : text' = text := Option.some.inj hSome
      exact finished_injective hItems hText' hText
  · rintro (hFault | hSteady) items hItems
    · exact (lines_withItems_iff hItems).mpr (.inl hFault)
    · refine (lines_withItems_iff hItems).mpr (.inr fun p hp => ?_)
      cases hEdited : r.edited block p.1 p.2 with
      | error fault => simp only [line, edited_withItems, hEdited]
      | ok edited =>
        cases edited with
        | none => simp only [line, edited_withItems, hEdited]
        | some left =>
          have hApply :=
            Highlights.apply_perm_iff.mpr (hSteady p.1 p.2 left hp hEdited) items hItems
          have hFinished : (r.withItems items).finished p.1 left = r.finished p.1 left := by
            simp only [finished, withItems, hApply]
          rw [line_of_edited (r := r.withItems items) hEdited, line_of_edited hEdited, hFinished]

/-- Neither a block nor a line of it depends on the order of its highlights exactly where no order
of the columns of a line is seen. -/
theorem reorder_iff (r : Rendering) (block : CodeBlock) :
    ((∀ items, items.Perm r.highlights.items →
      (r.withItems items).lines block = r.lines block) ↔
      (∃ fault, r.lines block = .error fault) ∨
        ∀ n raw left, (n, raw) ∈ block.numbered → r.edited block n raw = .ok (some left) →
          Highlights.Steady (r.highlights.columnsOf n) left) ∧
    ∀ line n, (∀ items, items.Perm r.highlights.items →
      (r.withItems items).highlights.apply line n = r.highlights.apply line n) ↔
      Highlights.Steady (r.highlights.columnsOf n) line :=
  ⟨lines_perm_iff r block, fun _ _ => Highlights.apply_perm_iff⟩

/-- A block of one line of which nothing is asked but highlights. -/
theorem lines_highlighted {h : Highlights} {range : LineRange} {text : Text} (style : CommentStyle)
    (hApply : h.apply raw range.first = ([], text)) :
    lines ⟨style, h, {}, {}⟩ ⟨range, [raw]⟩ = .ok [text] := by
  have hLine : line ⟨style, h, {}, {}⟩ ⟨range, [raw]⟩ range.first raw = .ok (some text) := by
    have hEdited : edited ⟨style, h, {}, {}⟩ ⟨range, [raw]⟩ range.first raw = .ok (some raw) := rfl
    rw [line_of_edited hEdited]
    unfold finished
    dsimp only
    rw [hApply]
    dsimp only
    rw [shiftIndent_zero]
    rfl
  have hNumbered : CodeBlock.numbered ⟨range, [raw]⟩ = [(range.first, raw)] := rfl
  rw [lines_eq_map, hNumbered, List.mapM_cons, hLine]
  rfl

theorem not_lines_reordered : ¬ ∀ (r : Rendering) (block : CodeBlock) (items : List Item),
    items.Perm r.highlights.items → (r.withItems items).lines block = r.lines block := by
  intro hSame
  let range : LineRange := ⟨1, 1, by decide, by decide⟩
  let long : Item := .columns ⟨1, 1, 3, by decide, by decide, by decide⟩
  let short : Item := .columns ⟨1, 1, 2, by decide, by decide, by decide⟩
  have hLongFirst : lines ⟨.slashes, ⟨[long, short], .absolute⟩, {}, {}⟩ ⟨range, ["abc".toList]⟩ =
      .ok ["\x60\x60a\x60bc\x60".toList] :=
    lines_highlighted .slashes (Highlights.apply_pair _ rfl rfl rfl)
  have hShortFirst : lines ⟨.slashes, ⟨[short, long], .absolute⟩, {}, {}⟩ ⟨range, ["abc".toList]⟩ =
      .ok ["\x60\x60ab\x60\x60c".toList] :=
    lines_highlighted .slashes (Highlights.apply_pair _ rfl rfl rfl)
  have hTexts := hShortFirst.symm.trans
    ((hSame ⟨.slashes, _, {}, {}⟩ _ _ (List.Perm.swap _ _ _)).trans hLongFirst)
  revert hTexts
  decide

end Rendering

end Excerpt
