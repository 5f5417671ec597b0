import Excerpt.Text.Blank
import Mathlib.Data.List.DropRight

/-!
# Pieces of a text

Cutting a text gives back what was joined, provided that the separator stands where it should, and
trimming takes the blanks around a text and nothing else.

* `splitOn_join`: the pieces between separators are those that were joined.
* `join_flatten_splitOn`: texts that are cut into pieces are joined as before.
* `prefix_of_not_mem`, `infix_or_infix`: what stands on one side of a character.
* `cut_append`, `cutLast_eq_some_iff`: a cut at the first and at the last separator.
* `trim_between`, `exists_trim`: trimming, by the blanks around the text.
-/

namespace Excerpt

namespace Text

variable {separator : Char} {t before after : Text}

/-! ## Splitting -/

theorem splitOn_eq_list (separator : Char) (t : Text) :
    splitOn separator t = List.splitOn separator t := by
  induction t with
  | nil => rfl
  | cons c rest ih =>
    rw [List.splitOn_cons_eq_if_modifyHead, ← ih]
    by_cases hc : c = separator
    · rw [hc, splitOn_cons_self, if_pos (beq_self_eq_true separator)]
    · obtain ⟨piece, pieces, hRest, hCons⟩ := splitOn_cons_of_ne hc rest
      rw [hCons, hRest, if_neg (by simpa using hc), List.modifyHead_cons]

theorem splitOn_join {pieces : List Text} (hNe : pieces ≠ [])
    (h : ∀ piece ∈ pieces, separator ∉ piece) :
    splitOn separator (join [separator] pieces) = pieces := by
  rw [splitOn_eq_list]
  exact List.splitOn_intercalate separator h hNe

theorem splitOn_of_not_mem (h : separator ∉ t) : splitOn separator t = [t] := by
  rw [splitOn_eq_list]
  exact List.splitOn_eq_singleton h

theorem splitOn_append (h : separator ∉ before) (after : Text) :
    splitOn separator (before ++ separator :: after) = before :: splitOn separator after := by
  rw [splitOn_eq_list, splitOn_eq_list]
  exact List.splitOn_append_cons_self_of_not_mem h after

theorem not_mem_of_mem_splitOn {piece : Text} (h : piece ∈ splitOn separator t) :
    separator ∉ piece := by
  induction t generalizing piece with
  | nil =>
    rw [splitOn_nil, List.mem_singleton] at h
    simp [h]
  | cons c t ih =>
    by_cases hc : c = separator
    · subst hc
      rw [splitOn_cons_self] at h
      rcases List.mem_cons.mp h with rfl | h
      · exact List.not_mem_nil
      · exact ih h
    · obtain ⟨first, rest, hPieces, hCons⟩ := splitOn_cons_of_ne hc t
      rw [hCons] at h
      rw [hPieces] at ih
      rcases List.mem_cons.mp h with rfl | h
      · exact List.not_mem_cons_of_ne_of_not_mem (Ne.symm hc) (ih List.mem_cons_self)
      · exact ih (List.mem_cons_of_mem _ h)

theorem splitOn_append_separator (before after : Text) :
    splitOn separator (before ++ separator :: after) =
      splitOn separator before ++ splitOn separator after := by
  simp only [splitOn_eq_list]
  exact List.splitOn_append_cons_self before after

/-- The pieces of a text are pieces of any longer one, but for the last, which may go on there. -/
theorem exists_splitOn_append (separator : Char) (before after : Text) :
    ∃ (front : List Text) (last more : Text) (rest : List Text),
      splitOn separator before = front ++ [last] ∧
      splitOn separator (before ++ after) = front ++ (last ++ more) :: rest := by
  induction before with
  | nil =>
    obtain ⟨more, rest, hAfter⟩ := List.exists_cons_of_ne_nil (splitOn_ne_nil separator after)
    exact ⟨[], [], more, rest, rfl, hAfter⟩
  | cons c before ih =>
    obtain ⟨front, last, more, rest, hBefore, hBoth⟩ := ih
    by_cases hc : c = separator
    · subst hc
      refine ⟨[] :: front, last, more, rest, ?_, ?_⟩
      · rw [splitOn_cons_self, hBefore, List.cons_append]
      · rw [List.cons_append, splitOn_cons_self, hBoth, List.cons_append]
    · obtain ⟨piece, pieces, hPieces, hCons⟩ := splitOn_cons_of_ne hc before
      obtain ⟨piece', pieces', hPieces', hCons'⟩ := splitOn_cons_of_ne hc (before ++ after)
      rw [hPieces] at hBefore
      rw [hPieces'] at hBoth
      rw [List.cons_append, hCons, hCons']
      cases front with
      | nil =>
        cases hBefore
        cases hBoth
        exact ⟨[], c :: last, more, rest, rfl, rfl⟩
      | cons first front =>
        cases hBefore
        cases hBoth
        exact ⟨(c :: piece) :: front, last, more, rest, rfl, rfl⟩

/-- A text without the separator goes on with the first piece of what stands behind it. -/
theorem splitOn_append_of_not_mem (h : separator ∉ before) {first : Text} {rest : List Text}
    (hAfter : splitOn separator after = first :: rest) :
    splitOn separator (before ++ after) = (before ++ first) :: rest := by
  induction before with
  | nil => exact hAfter
  | cons c before ih =>
    obtain ⟨piece, pieces, hPieces, hCons⟩ :=
      splitOn_cons_of_ne (List.ne_of_not_mem_cons h).symm (before ++ after)
    rw [ih (List.not_mem_of_not_mem_cons h)] at hPieces
    cases hPieces
    exact hCons

theorem head?_of_splitOn {first : Text} {rest : List Text} (h : splitOn separator t = first :: rest)
    {c : Char} (hc : c ≠ separator) : t.head? = some c ↔ first.head? = some c := by
  cases t with
  | nil =>
    cases h
    rfl
  | cons d t =>
    by_cases hd : d = separator
    · subst hd
      rw [splitOn_cons_self] at h
      cases h
      simp [hc.symm]
    · obtain ⟨piece, pieces, -, hCons⟩ := splitOn_cons_of_ne hd t
      rw [hCons] at h
      cases h
      simp

theorem join_cons_cons (gap first second : Text) (rest : List Text) :
    join gap (first :: second :: rest) = first ++ gap ++ join gap (second :: rest) := by
  simp [join, List.intercalate_cons_cons]

theorem join_append (gap : Text) {front back : List Text} (hFront : front ≠ [])
    (hBack : back ≠ []) : join gap (front ++ back) = join gap front ++ gap ++ join gap back := by
  induction front with
  | nil => exact absurd rfl hFront
  | cons first rest ih =>
    cases rest with
    | nil =>
      obtain ⟨second, more, rfl⟩ := List.exists_cons_of_ne_nil hBack
      rw [List.singleton_append, join_cons_cons]
      simp [join]
    | cons second rest =>
      rw [List.cons_append, List.cons_append, join_cons_cons, ← List.cons_append,
        ih (List.cons_ne_nil _ _), join_cons_cons]
      simp only [List.append_assoc]

/-- Pieces with a separator behind each of them, and a last one. -/
theorem join_snoc (separator : Char) (pieces : List Text) (last : Text) :
    join [separator] (pieces ++ [last]) = pieces.flatMap (· ++ [separator]) ++ last := by
  induction pieces with
  | nil => simp [join]
  | cons first rest ih =>
    cases rest with
    | nil => simp [join, List.intercalate]
    | cons second rest =>
      simp only [List.cons_append, List.flatMap_cons] at ih ⊢
      rw [join_cons_cons, ih]
      simp

/-- Texts that are cut at the separator are joined as if they were whole. -/
theorem join_flatten_splitOn (separator : Char) (texts : List Text) :
    join [separator] (texts.map (splitOn separator)).flatten = join [separator] texts := by
  induction texts with
  | nil => rfl
  | cons first rest ih =>
    cases rest with
    | nil =>
      rw [List.map_singleton, List.flatten_singleton, join_splitOn]
      simp [join]
    | cons second rest =>
      have hRest : ((second :: rest).map (splitOn separator)).flatten ≠ [] := by
        simp [splitOn_ne_nil]
      rw [List.map_cons, List.flatten_cons, join_append _ (splitOn_ne_nil separator first) hRest,
        ih, join_splitOn, join_cons_cons]

theorem infix_join_of_mem {pieces : List Text} {piece : Text} (gap : Text)
    (h : piece ∈ pieces) : piece <:+: join gap pieces := by
  induction pieces with
  | nil => cases h
  | cons first rest ih =>
    cases rest with
    | nil =>
      rw [List.mem_singleton.mp h]
      simp [join]
    | cons second rest =>
      rw [join_cons_cons]
      rcases List.mem_cons.mp h with rfl | h
      · exact ⟨[], gap ++ join gap (second :: rest), by simp⟩
      · exact (ih h).trans (List.suffix_append _ _).isInfix

theorem infix_behind (before : Text) (c : Char) (after : Text) :
    after <:+: before ++ c :: after := ⟨before ++ [c], [], by simp⟩

theorem infix_of_mem_splitOn {piece : Text} (h : piece ∈ splitOn separator t) : piece <:+: t := by
  have hInfix := infix_join_of_mem [separator] h
  rwa [join_splitOn] at hInfix

/-! ## On one side of a separator -/

theorem prefix_of_not_mem {run : Text} (h : run <+: before ++ separator :: after)
    (hc : separator ∉ run) : run <+: before := by
  have hWhole : before ++ [separator] <+: before ++ separator :: after := ⟨after, by simp⟩
  rcases List.prefix_or_prefix_of_prefix h hWhole with hRun | hBehind
  · rcases List.prefix_concat_iff.mp hRun with rfl | hBefore
    · simp at hc
    · exact hBefore
  · exact absurd (hBehind.subset (by simp)) hc

/-- What does not have the character stands before it or behind it. -/
theorem infix_or_infix {run : Text} (h : run <:+: before ++ separator :: after)
    (hc : separator ∉ run) : run <:+: before ∨ run <:+: after := by
  induction before with
  | nil =>
    rcases List.infix_cons_iff.mp h with hPrefix | hAfter
    · have hEmpty : run <+: [] := prefix_of_not_mem hPrefix hc
      exact .inl hEmpty.isInfix
    · exact .inr hAfter
  | cons first before ih =>
    rcases List.infix_cons_iff.mp h with hPrefix | hInside
    · have hBefore : run <+: first :: before := prefix_of_not_mem hPrefix hc
      exact .inl hBefore.isInfix
    · exact (ih hInside).imp_left (·.trans (List.suffix_cons first before).isInfix)

/-! ## Cutting -/

theorem takeWhile_until {p : Char → Bool} {stop : Char} (h : ∀ c ∈ before, p c = true)
    (hStop : p stop = false) (after : Text) :
    (before ++ stop :: after).takeWhile p = before := by
  rw [List.takeWhile_append_of_pos h, List.takeWhile_cons_of_neg (by simp [hStop]),
    List.append_nil]

theorem dropWhile_until {p : Char → Bool} {stop : Char} (h : ∀ c ∈ before, p c = true)
    (hStop : p stop = false) (after : Text) :
    (before ++ stop :: after).dropWhile p = stop :: after := by
  rw [List.dropWhile_append_of_pos h, List.dropWhile_cons_of_neg (by simp [hStop])]

theorem append_of_dropWhile {p : Char → Bool} {c : Char} (h : t.dropWhile p = c :: after) :
    t = t.takeWhile p ++ c :: after := by
  rw [← h, List.takeWhile_append_dropWhile]

theorem dropStart?_eq_some_iff {opening : Text} :
    dropStart? opening t = some after ↔ t = opening ++ after := by
  unfold dropStart?
  constructor
  · intro h
    split at h
    · rename_i hOpening
      obtain ⟨rest, rfl⟩ := List.isPrefixOf_iff_prefix.mp hOpening
      rw [List.drop_left] at h
      rw [Option.some.inj h]
    · cases h
  · rintro rfl
    rw [if_pos (List.isPrefixOf_iff_prefix.mpr (List.prefix_append _ _)), List.drop_left]

theorem cut_append (h : separator ∉ before) (after : Text) :
    cut separator (before ++ separator :: after) = some (before, after) := by
  have hBefore : ∀ c ∈ before, (c != separator) = true :=
    fun c hc => bne_iff_ne.mpr fun hEq => h (hEq ▸ hc)
  unfold cut
  rw [dropWhile_until hBefore (by simp), takeWhile_until hBefore (by simp)]

theorem cut_eq_none_iff : cut separator t = none ↔ separator ∉ t := by
  constructor
  · intro hNone hMem
    obtain ⟨before, after, rfl, hBefore⟩ := List.eq_append_cons_of_mem hMem
    rw [cut_append hBefore] at hNone
    cases hNone
  · intro h
    cases hCut : cut separator t with
    | none => rfl
    | some parts =>
      obtain ⟨rfl, -⟩ := cut_eq_some hCut
      simp at h

theorem cutLast_eq_some_iff :
    cutLast separator t = some (before, after) ↔
      t = before ++ separator :: after ∧ separator ∉ after := by
  unfold cutLast
  rw [Option.map_eq_some_iff]
  constructor
  · rintro ⟨⟨last, first⟩, hCut, hParts⟩
    cases hParts
    obtain ⟨hEq, hLast⟩ := cut_eq_some hCut
    refine ⟨?_, by simpa using hLast⟩
    have := congrArg List.reverse hEq
    simpa using this
  · rintro ⟨rfl, h⟩
    refine ⟨(after.reverse, before.reverse), ?_, by simp⟩
    rw [List.reverse_append, List.reverse_cons, List.append_assoc]
    exact cut_append (by simpa using h) before.reverse

/-! ## Trimming -/

theorem trimEnd_eq (t : Text) : trimEnd t = t.rdropWhile Excerpt.isBlank := rfl

theorem isBlank_iff : t.isBlank = true ↔ ∀ c ∈ t, Excerpt.isBlank c = true := by
  simp [isBlank]

theorem isBlank_nil : Text.isBlank [] = true := rfl

theorem isBlank_append : (before ++ after).isBlank = (before.isBlank && after.isBlank) :=
  List.all_append

theorem exists_trim (t : Text) : ∃ before after : Text,
    before.isBlank = true ∧ after.isBlank = true ∧ t = before ++ trim t ++ after := by
  refine ⟨t.takeWhile Excerpt.isBlank, (trimStart t).rtakeWhile Excerpt.isBlank, ?_, ?_, ?_⟩
  · exact List.all_takeWhile
  · exact isBlank_iff.mpr fun c hc => List.mem_rtakeWhile_imp hc
  · rw [List.append_assoc, trim, trimEnd_eq, List.rdropWhile_append_rtakeWhile]
    exact List.takeWhile_append_dropWhile.symm

theorem infix_of_trim (t : Text) : trim t <:+: t := by
  obtain ⟨before, after, -, -, hText⟩ := exists_trim t
  exact ⟨before, after, hText.symm⟩

theorem trimStart_append_of_isBlank (h : before.isBlank = true) (t : Text) :
    trimStart (before ++ t) = trimStart t :=
  List.dropWhile_append_of_pos (isBlank_iff.mp h)

theorem trimStart_eq_nil_iff : trimStart t = [] ↔ t.isBlank = true := by
  rw [isBlank_iff]
  exact List.dropWhile_eq_nil_iff

theorem trimEnd_append_of_isBlank (t : Text) (h : after.isBlank = true) :
    trimEnd (t ++ after) = trimEnd t := by
  unfold trimEnd dropEndWhile
  rw [List.reverse_append, List.dropWhile_append_of_pos]
  simpa using isBlank_iff.mp h

theorem trim_between (hBefore : before.isBlank = true) (hAfter : after.isBlank = true) (t : Text) :
    trim (before ++ t ++ after) = trim t := by
  unfold trim
  rw [List.append_assoc, trimStart_append_of_isBlank hBefore]
  by_cases hBlank : t.isBlank = true
  · have hAll : (t ++ after).isBlank = true := by rw [isBlank_append, hBlank, hAfter]; rfl
    rw [trimStart_eq_nil_iff.mpr hAll, trimStart_eq_nil_iff.mpr hBlank]
  · have hStart : trimStart (t ++ after) = trimStart t ++ after := by
      unfold trimStart
      rw [List.dropWhile_append, if_neg]
      rw [List.isEmpty_iff]
      exact fun h => hBlank (trimStart_eq_nil_iff.mp h)
    rw [hStart, trimEnd_append_of_isBlank _ hAfter]

theorem trim_eq_nil_iff : trim t = [] ↔ t.isBlank = true := by
  constructor
  · intro h
    obtain ⟨before, after, hBefore, hAfter, hText⟩ := exists_trim t
    rw [hText, h, isBlank_append, isBlank_append, hBefore, hAfter]
    rfl
  · intro h
    unfold trim
    rw [trimStart_eq_nil_iff.mpr h]
    rfl

theorem trim_eq_self (h : ∀ c ∈ t, Excerpt.isBlank c = false) : trim t = t := by
  have hStart : trimStart t = t := by
    unfold trimStart
    cases t with
    | nil => rfl
    | cons c rest => rw [List.dropWhile_cons_of_neg (by simp [h c])]
  unfold trim
  rw [hStart, trimEnd_eq, List.rdropWhile_eq_self_iff]
  intro hNe
  rw [h _ (List.getLast_mem hNe)]
  exact Bool.false_ne_true

theorem trim_trim (t : Text) : trim (trim t) = trim t := by
  obtain ⟨before, after, hBefore, hAfter, hText⟩ := exists_trim t
  have hTrim := trim_between hBefore hAfter (trim t)
  rw [← hText] at hTrim
  exact hTrim.symm

theorem trimEnd_eq_nil_iff : trimEnd t = [] ↔ t.isBlank = true := by
  rw [trimEnd_eq, List.rdropWhile_eq_nil_iff, isBlank_iff]

theorem trim_trimEnd (t : Text) : trim (trimEnd t) = trim t := by
  have hLast : Text.isBlank (t.rtakeWhile Excerpt.isBlank) = true :=
    isBlank_iff.mpr fun c hc => List.mem_rtakeWhile_imp hc
  have hBetween := trim_between isBlank_nil hLast (trimEnd t)
  rw [List.nil_append, trimEnd_eq, List.rdropWhile_append_rtakeWhile] at hBetween
  exact hBetween.symm

theorem trimStart_append_cons {c : Char} (hc : Excerpt.isBlank c = false) (before after : Text) :
    trimStart (before ++ c :: after) = trimStart before ++ c :: after := by
  unfold trimStart
  rw [List.dropWhile_append]
  split
  · rename_i hEmpty
    rw [List.isEmpty_iff.mp hEmpty, List.dropWhile_cons_of_neg (by simp [hc]), List.nil_append]
  · rfl

theorem trimEnd_append_cons {c : Char} (hc : Excerpt.isBlank c = false) (before after : Text) :
    trimEnd (before ++ c :: after) = before ++ c :: trimEnd after := by
  have hReverse := trimStart_append_cons hc after.reverse before.reverse
  unfold trimEnd dropEndWhile
  rw [List.reverse_append, List.reverse_cons, List.append_assoc, List.singleton_append]
  unfold trimStart at hReverse
  rw [hReverse]
  simp

/-- Trimming does not go past a character that is no blank. -/
theorem trim_append_cons {c : Char} (hc : Excerpt.isBlank c = false) (before after : Text) :
    trim (before ++ c :: after) = trimStart before ++ c :: trimEnd after := by
  rw [trim, trimStart_append_cons hc, trimEnd_append_cons hc]

/-- A text that is alike up to the blanks around it has the same separator, between parts that are
alike likewise. -/
theorem exists_parts_of_trim_eq {c : Char} (hc : Excerpt.isBlank c = false)
    (h : trim (before ++ c :: after) = trim t) :
    ∃ before' after', t = before' ++ c :: after' ∧ trim before = trim before' ∧
      trim after = trim after' := by
  obtain ⟨first, last, hFirst, hLast, hText⟩ := exists_trim t
  obtain ⟨gap, hGap, hAfter⟩ : ∃ gap : Text, gap.isBlank = true ∧ after = trimEnd after ++ gap := by
    refine ⟨after.rtakeWhile Excerpt.isBlank, ?_, ?_⟩
    · exact isBlank_iff.mpr fun x hx => List.mem_rtakeWhile_imp hx
    · rw [trimEnd_eq, List.rdropWhile_append_rtakeWhile]
  rw [trim_append_cons hc] at h
  refine ⟨first ++ trimStart before, trimEnd after ++ last, ?_, ?_, ?_⟩
  · rw [hText, ← h]
    simp
  · unfold trim
    rw [trimStart_append_of_isBlank hFirst, trimStart_trimStart]
  · have hTrim {gap : Text} (hGap : gap.isBlank = true) :
        trim (trimEnd after ++ gap) = trim (trimEnd after) := by
      simpa using trim_between isBlank_nil hGap (trimEnd after)
    rw [hTrim hLast, ← hTrim hGap, ← hAfter]

end Text

end Excerpt
