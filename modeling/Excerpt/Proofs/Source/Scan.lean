import Excerpt.Proofs.Text.Pieces
import Excerpt.Source.Marker

/-!
# Markers that are met

A marker begins a text if the text goes on as the marker is written. No two markers of a line
overlap, so a search that goes on behind each marker that it meets misses none.

* `Marker.atStart?_eq_some_iff`: the marker that a text begins with.
* `Marker.not_prefix_inside`: no marker begins inside of another one.
* `Marker.scan_eq_occurrences`: what is met from left to right, and all that stands in the line.
-/

namespace Excerpt.Marker

/-! ## The text of a marker -/

/-- Whether a marker can be written: its identifier ends at its colon, and its span at its closing
parenthesis. -/
structure IsWritable (m : Marker) : Prop where
  id : ∀ c ∈ m.id, c ≠ ':' ∧ c ≠ '(' ∧ c ≠ ')'
  span : ∀ c ∈ m.span, c ≠ '(' ∧ c ≠ ')'

variable {m : Marker}

theorem atStart?_text (h : m.IsWritable) (rest : Text) : atStart? (m.text ++ rest) = some m := by
  have hDrop : Text.dropStart? opening (m.text ++ rest) =
      some (m.id ++ ':' :: (m.span ++ ')' :: rest)) := by
    refine Text.dropStart?_eq_some_iff.mpr ?_
    simp [text]
  have hIdAll : ∀ c ∈ m.id, (c != ':' && c != '(' && c != ')') = true := by
    intro c hc
    obtain ⟨hColon, hOpen, hClose⟩ := h.id c hc
    simp [hColon, hOpen, hClose]
  have hSpanAll : ∀ c ∈ m.span, (c != '(' && c != ')') = true := by
    intro c hc
    obtain ⟨hOpen, hClose⟩ := h.span c hc
    simp [hOpen, hClose]
  have hColon : (':' != ':' && ':' != '(' && ':' != ')') = false := by decide
  have hClose : (')' != '(' && ')' != ')') = false := by decide
  unfold atStart?
  rw [hDrop]
  simp only [Option.bind_some, Text.dropWhile_until hIdAll hColon,
    Text.takeWhile_until hIdAll hColon, Text.dropWhile_until hSpanAll hClose,
    Text.takeWhile_until hSpanAll hClose]

theorem atStart?_eq_some_iff {t : Text} : atStart? t = some m ↔ m.IsWritable ∧ m.text <+: t := by
  constructor
  · intro h
    unfold atStart? at h
    obtain ⟨rest, hRest, h⟩ := Option.bind_eq_some_iff.mp h
    have hOpening := Text.dropStart?_eq_some_iff.mp hRest
    dsimp only at h
    split at h
    · rename_i behind hBehind
      have hId := Text.append_of_dropWhile hBehind
      split at h
      · rename_i after hAfter
        have hSpan := Text.append_of_dropWhile hAfter
        cases h
        refine ⟨⟨?_, ?_⟩, after, ?_⟩
        · intro c hc
          simpa [and_assoc] using List.all_eq_true.mp List.all_takeWhile c hc
        · intro c hc
          simpa using List.all_eq_true.mp List.all_takeWhile c hc
        · rw [hOpening]
          conv_rhs => rw [hId, hSpan]
          simp [text]
      · cases h
    · cases h
  · rintro ⟨hWritable, rest, rfl⟩
    exact atStart?_text hWritable rest

/-! ## Markers side by side -/

/-- No marker begins inside of another one. -/
theorem not_prefix_inside (h : m.IsWritable) {front back : Text} (hText : m.text = front ++ back)
    (hFront : front ≠ []) (hBack : back ≠ []) (behind : Text) :
    ¬ opening <+: back ++ behind := by
  intro hOpening
  let word : Text := ['c', 'o', 'd', 'e', '_', 'b', 'l', 'o', 'c', 'k']
  let inside : Text := m.id ++ ':' :: m.span
  have hWord : '(' ∉ word := by decide
  have hInside : '(' ∉ inside := by
    simp only [inside, List.mem_append, List.mem_cons, not_or]
    exact ⟨fun hc => (h.id _ hc).2.1 rfl, by decide, fun hc => (h.span _ hc).1 rfl⟩
  have hMarker : m.text = (word ++ '(' :: inside) ++ [')'] := by
    simp [text, opening, word, inside]
  obtain ⟨back, last, rfl⟩ := (List.eq_nil_or_concat' back).resolve_left hBack
  obtain ⟨hAll, hLast⟩ := List.append_inj' ((hMarker.symm.trans hText).trans
    (List.append_assoc _ _ _).symm) rfl
  obtain rfl : ')' = last := List.singleton_inj.mp hLast
  have hClose : ')' ∉ opening := by decide
  -- the opening does not reach to the closing parenthesis, so it stands within what is before it
  have hWithin : opening <+: back := Text.prefix_of_not_mem (by simpa using hOpening) hClose
  obtain ⟨rest, rfl⟩ := hWithin
  have hSplit : word ++ '(' :: inside = front ++ word ++ '(' :: rest := by
    rw [hAll]
    simp [opening, word]
  have hCut := congrArg (Text.cut '(') hSplit
  rw [Text.cut_append hWord] at hCut
  by_cases hParen : '(' ∈ front
  · obtain ⟨before, after, rfl, hBefore⟩ := List.eq_append_cons_of_mem hParen
    rw [List.append_assoc, List.append_assoc, List.cons_append, Text.cut_append hBefore] at hCut
    obtain ⟨-, hRest⟩ := Prod.mk.inj (Option.some.inj hCut)
    exact hInside (hRest ▸ by simp)
  · rw [Text.cut_append (by simp [hParen, hWord])] at hCut
    have hLength := congrArg (fun parts => parts.map (List.length ·.1)) hCut
    simp [hFront] at hLength

/-! ## From left to right -/

/-- All markers that a text has, at whatever place. -/
def occurrences : Text → List Marker
  | [] => []
  | c :: rest => (atStart? (c :: rest)).toList ++ occurrences rest

theorem occurrences_cons (c : Char) (rest : Text) :
    occurrences (c :: rest) = (atStart? (c :: rest)).toList ++ occurrences rest := rfl

theorem occurrences_append_of_inside (h : m.IsWritable) {front back : Text}
    (hText : m.text = front ++ back) (hFront : front ≠ []) (behind : Text) :
    occurrences (back ++ behind) = occurrences behind := by
  induction back generalizing front with
  | nil => rfl
  | cons c back ih =>
    have hNone : atStart? (c :: (back ++ behind)) = none := by
      cases hStart : atStart? (c :: (back ++ behind)) with
      | none => rfl
      | some m' =>
        obtain ⟨-, hPrefix⟩ := atStart?_eq_some_iff.mp hStart
        have hOpening := (List.prefix_append opening _).trans hPrefix
        exact absurd hOpening (not_prefix_inside h hText hFront (by simp) behind)
    have hNext : m.text = (front ++ [c]) ++ back := by rw [hText, List.append_assoc]; rfl
    have hRest := ih hNext (by simp)
    rw [List.cons_append, occurrences_cons, hNone, hRest]
    rfl

theorem scanBehind_eq (skipped : Nat) (t : Text) :
    scanBehind skipped t = occurrences (t.drop skipped) := by
  induction t generalizing skipped with
  | nil => rw [scanBehind, List.drop_nil, occurrences]
  | cons c rest ih =>
    cases skipped with
    | succ skipped => exact ih skipped
    | zero =>
      rw [List.drop_zero, scanBehind, occurrences_cons]
      cases hStart : atStart? (c :: rest) with
      | none => exact ih 0
      | some m =>
        obtain ⟨hWritable, behind, hBehind⟩ := atStart?_eq_some_iff.mp hStart
        obtain ⟨first, others, hText⟩ : ∃ first others, m.text = first :: others :=
          ⟨_, _, rfl⟩
        have hFront : m.text = [first] ++ others := hText
        have hInside := occurrences_append_of_inside hWritable hFront (by simp) behind
        rw [hText, List.cons_append] at hBehind
        obtain ⟨rfl, rfl⟩ := List.cons_eq_cons.mp hBehind
        dsimp only
        rw [ih, hInside, hText, List.length_cons, Nat.add_sub_cancel, List.drop_left]
        rfl

theorem scan_eq_occurrences (line : Text) : scan line = occurrences line :=
  scanBehind_eq 0 line

end Excerpt.Marker
