import Mathlib.Data.List.Induction
import Mathlib.Logic.ExistsUnique
import Excerpt.Markdown.Fence

/-!
# Blocks of fenced lines

Which lines stand inside a block depends on the lines before them: on the last line that opens a
block and on whether a line behind it closes that block. What opens and what closes is given by
rules. A text is read from its start, so each line takes the lines before it from one state to the
next, and they are always in exactly one state.

If the rules by which lines are read admit all that other rules admit, the first line that only they
take for the start or the end of a block is where the two come apart.

* `BlockRules.behind_concat_iff`: the state behind one line more.
* `BlockRules.existsUnique_behind`: lines leave one block open or none.
* `BlockRules.Admits.agree_iff`: two rules agree exactly if there is no such line.
-/

namespace Excerpt.Markdown

/-- Rules for which lines open the block of a fence, and which lines close it. -/
structure BlockRules where
  Opens : Text → Fence → Prop
  Closes : Fence → Text → Prop
  opens_unique {line : Text} {f g : Fence} : Opens line f → Opens line g → f = g

namespace BlockRules

section States

variable (rules : BlockRules)

/-- Lines that leave no block open: there are none, the last one opens no block, or the last ones
are a whole block. -/
inductive Outside : List Text → Prop
  | nil : Outside []
  | line {before : List Text} {line : Text} (hBefore : Outside before)
      (hLine : ∀ f, ¬ rules.Opens line f) : Outside (before ++ [line])
  | block {before inner : List Text} {opener closer : Text} {f : Fence} (hBefore : Outside before)
      (hOpener : rules.Opens opener f) (hInner : ∀ line ∈ inner, ¬ rules.Closes f line)
      (hCloser : rules.Closes f closer) : Outside (before ++ opener :: inner ++ [closer])

/-- Lines that leave the block of a fence open: one of them opens it, and none behind that closes
it. -/
def Inside (lines : List Text) (f : Fence) : Prop :=
  ∃ before opener inner, lines = before ++ opener :: inner ∧ rules.Outside before ∧
    rules.Opens opener f ∧ ∀ line ∈ inner, ¬ rules.Closes f line

/-- Lines that leave a block open. -/
def IsInside (lines : List Text) : Prop := ∃ f, rules.Inside lines f

/-- The lines with the block that they leave open, if they do. -/
def Behind (lines : List Text) : Option Fence → Prop
  | none => rules.Outside lines
  | some f => rules.Inside lines f

/-- What one line does to the block that is open before it. -/
inductive Step (line : Text) : Option Fence → Option Fence → Prop
  | plain (hLine : ∀ f, ¬ rules.Opens line f) : Step line none none
  | opener {f : Fence} (hLine : rules.Opens line f) : Step line none (some f)
  | inner {f : Fence} (hLine : ¬ rules.Closes f line) : Step line (some f) (some f)
  | closer {f : Fence} (hLine : rules.Closes f line) : Step line (some f) none

end States

variable {rules : BlockRules} {lines : List Text} {line : Text} {opened after : Option Fence}
  {f : Fence}

/-! ## One line more -/

theorem inside_concat_iff : rules.Inside (lines ++ [line]) f ↔
    rules.Outside lines ∧ rules.Opens line f ∨ rules.Inside lines f ∧ ¬ rules.Closes f line := by
  constructor
  · rintro ⟨before, opener, inner, hLines, hBefore, hOpener, hInner⟩
    cases List.eq_nil_or_concat inner with
    | inl hNil =>
      subst hNil
      obtain ⟨rfl, hEq⟩ := List.append_inj' hLines rfl
      cases hEq
      exact .inl ⟨hBefore, hOpener⟩
    | inr hConcat =>
      obtain ⟨inner, last, rfl⟩ := hConcat
      rw [List.concat_eq_append, ← List.cons_append, ← List.append_assoc] at hLines
      obtain ⟨rfl, hEq⟩ := List.append_inj' hLines rfl
      cases hEq
      rw [List.concat_eq_append, List.forall_mem_append, List.forall_mem_singleton] at hInner
      exact .inr ⟨⟨before, opener, inner, rfl, hBefore, hOpener, hInner.1⟩, hInner.2⟩
  · rintro (⟨hLines, hLine⟩ | ⟨⟨before, opener, inner, rfl, hBefore, hOpener, hInner⟩, hLine⟩)
    · exact ⟨lines, line, [], rfl, hLines, hLine, nofun⟩
    · refine ⟨before, opener, inner ++ [line], by simp, hBefore, hOpener, ?_⟩
      rw [List.forall_mem_append, List.forall_mem_singleton]
      exact ⟨hInner, hLine⟩

theorem outside_concat_iff : rules.Outside (lines ++ [line]) ↔
    (rules.Outside lines ∧ ∀ f, ¬ rules.Opens line f) ∨
      ∃ f, rules.Inside lines f ∧ rules.Closes f line := by
  constructor
  · intro h
    generalize hAll : lines ++ [line] = all at h
    cases h with
    | nil => simp at hAll
    | line hBefore hLine =>
      obtain ⟨rfl, hEq⟩ := List.append_inj' hAll rfl
      cases hEq
      exact .inl ⟨hBefore, hLine⟩
    | block hBefore hOpener hInner hCloser =>
      obtain ⟨rfl, hEq⟩ := List.append_inj' hAll rfl
      cases hEq
      exact .inr ⟨_, ⟨_, _, _, rfl, hBefore, hOpener, hInner⟩, hCloser⟩
  · rintro (⟨hLines, hLine⟩ | ⟨f, ⟨_, _, _, rfl, hBefore, hOpener, hInner⟩, hLine⟩)
    · exact .line hLines hLine
    · exact .block hBefore hOpener hInner hLine

theorem behind_nil_iff : rules.Behind [] opened ↔ opened = none := by
  cases opened with
  | none => exact iff_of_true .nil rfl
  | some f =>
    refine iff_of_false ?_ nofun
    rintro ⟨before, _, _, hNil, -⟩
    simp at hNil

theorem behind_concat_iff : rules.Behind (lines ++ [line]) after ↔
    ∃ opened, rules.Behind lines opened ∧ rules.Step line opened after := by
  cases after with
  | none =>
    refine outside_concat_iff.trans ⟨?_, ?_⟩
    · rintro (⟨hLines, hLine⟩ | ⟨f, hLines, hLine⟩)
      · exact ⟨none, hLines, .plain hLine⟩
      · exact ⟨some f, hLines, .closer hLine⟩
    · rintro ⟨opened, hLines, hLine | _ | _ | hLine⟩
      · exact .inl ⟨hLines, hLine⟩
      · exact .inr ⟨_, hLines, hLine⟩
  | some f =>
    refine inside_concat_iff.trans ⟨?_, ?_⟩
    · rintro (⟨hLines, hLine⟩ | ⟨hLines, hLine⟩)
      · exact ⟨none, hLines, .opener hLine⟩
      · exact ⟨some f, hLines, .inner hLine⟩
    · rintro ⟨opened, hLines, _ | hLine | hLine | _⟩
      · exact .inl ⟨hLines, hLine⟩
      · exact .inr ⟨hLines, hLine⟩

/-! ## States -/

theorem existsUnique_step (rules : BlockRules) (line : Text) (opened : Option Fence) :
    ∃! after, rules.Step line opened after := by
  cases opened with
  | none =>
    by_cases hOpens : ∃ f, rules.Opens line f
    · obtain ⟨f, hLine⟩ := hOpens
      refine ⟨some f, .opener hLine, ?_⟩
      rintro _ (hPlain | hLine')
      · exact absurd hLine (hPlain f)
      · rw [rules.opens_unique hLine' hLine]
    · refine ⟨none, .plain fun f hLine => hOpens ⟨f, hLine⟩, ?_⟩
      rintro _ (_ | hLine)
      · rfl
      · exact absurd ⟨_, hLine⟩ hOpens
  | some f =>
    by_cases hCloses : rules.Closes f line
    · refine ⟨none, .closer hCloses, ?_⟩
      rintro _ (_ | _ | hLine | _)
      · exact absurd hCloses hLine
      · rfl
    · refine ⟨some f, .inner hCloses, ?_⟩
      rintro _ (_ | _ | _ | hLine)
      · rfl
      · exact absurd hLine hCloses

/-- Lines leave one block open or none. -/
theorem existsUnique_behind (rules : BlockRules) (lines : List Text) :
    ∃! opened, rules.Behind lines opened := by
  induction lines using List.reverseRecOn with
  | nil => simp only [behind_nil_iff, existsUnique_eq]
  | append_singleton lines line ih =>
    obtain ⟨opened, hOpened, hOnly⟩ := ih
    obtain ⟨after, hStep, hStepOnly⟩ := existsUnique_step rules line opened
    simp only [behind_concat_iff]
    refine ⟨after, ⟨opened, hOpened, hStep⟩, ?_⟩
    rintro other ⟨opened', hOpened', hStep'⟩
    cases hOnly opened' hOpened'
    exact hStepOnly other hStep'

theorem Behind.isInside_iff (h : rules.Behind lines opened) :
    rules.IsInside lines ↔ opened.isSome = true := by
  constructor
  · rintro ⟨f, hInside⟩
    have hBehind : rules.Behind lines (some f) := hInside
    cases (existsUnique_behind rules lines).unique h hBehind
    rfl
  · intro hSome
    obtain ⟨f, rfl⟩ := Option.isSome_iff_exists.mp hSome
    exact ⟨f, h⟩

/-! ## Two rules -/

/-- Rules that admit every start and every end of a block that other rules admit. -/
structure Admits (loose strict : BlockRules) : Prop where
  opens {line : Text} {f : Fence} : strict.Opens line f → loose.Opens line f
  closes {line : Text} {f : Fence} : strict.Closes f line → loose.Closes f line

/-- A line that only the loose rules take for the start of a block, or for the end of the one that
is open. -/
def Differ (loose strict : BlockRules) (line : Text) : Option Fence → Prop
  | none => ∃ f, loose.Opens line f ∧ ¬ strict.Opens line f
  | some f => loose.Closes f line ∧ ¬ strict.Closes f line

/-- Whether no line differs in the place where it stands. -/
def NeverDiffer (loose strict : BlockRules) (lines : List Text) : Prop :=
  ∀ before line, before ++ [line] <+: lines →
    ∀ opened, strict.Behind before opened → ¬ Differ loose strict line opened

variable {loose strict : BlockRules} {after' : Option Fence}

theorem neverDiffer_concat_iff : NeverDiffer loose strict (lines ++ [line]) ↔
    NeverDiffer loose strict lines ∧
      ∀ opened, strict.Behind lines opened → ¬ Differ loose strict line opened := by
  constructor
  · intro h
    refine ⟨fun before l hPrefix => ?_, h lines line List.prefix_rfl⟩
    exact h before l (hPrefix.trans (List.prefix_append _ _))
  · rintro ⟨hLines, hLine⟩ before l hPrefix
    rcases List.prefix_concat_iff.mp hPrefix with hEq | hPrefix
    · obtain ⟨rfl, hLast⟩ := List.append_inj' hEq rfl
      cases hLast
      exact hLine
    · exact hLines before l hPrefix

namespace Admits

/-- A line that differs opens or closes a block under the loose rules only. -/
theorem isSome_ne_of_differ (h : Admits loose strict) (hDiffer : Differ loose strict line opened)
    (hLoose : loose.Step line opened after) (hStrict : strict.Step line opened after') :
    after.isSome ≠ after'.isSome := by
  cases hLoose with
  | plain hLine =>
    obtain ⟨f, hOpens, -⟩ := hDiffer
    exact absurd hOpens (hLine f)
  | opener hLine =>
    obtain ⟨f, hOpens, hNot⟩ := hDiffer
    cases hStrict with
    | plain => exact nofun
    | opener hLine' =>
      cases loose.opens_unique (h.opens hLine') hOpens
      exact absurd hLine' hNot
  | inner hLine => exact absurd hDiffer.1 hLine
  | closer hLine =>
    cases hStrict with
    | inner => exact nofun
    | closer hLine' => exact absurd hLine' hDiffer.2

/-- A line that does not differ does the same under both rules. -/
theorem step_eq (h : Admits loose strict) (hNot : ¬ Differ loose strict line opened)
    (hLoose : loose.Step line opened after) (hStrict : strict.Step line opened after') :
    after = after' := by
  cases hLoose with
  | plain hLine =>
    cases hStrict with
    | plain => rfl
    | opener hLine' => exact absurd (h.opens hLine') (hLine _)
  | opener hLine =>
    cases hStrict with
    | plain hLine' => exact absurd ⟨_, hLine, hLine' _⟩ hNot
    | opener hLine' => rw [loose.opens_unique hLine (h.opens hLine')]
  | inner hLine =>
    cases hStrict with
    | inner => rfl
    | closer hLine' => exact absurd (h.closes hLine') hLine
  | closer hLine =>
    cases hStrict with
    | inner hLine' => exact absurd ⟨hLine, hLine'⟩ hNot
    | closer => rfl

/-- If no line differs, the lines leave the same block open under both rules. -/
theorem behind_iff (h : Admits loose strict) (hSame : NeverDiffer loose strict lines) :
    loose.Behind lines opened ↔ strict.Behind lines opened := by
  induction lines using List.reverseRecOn generalizing opened with
  | nil => rw [behind_nil_iff, behind_nil_iff]
  | append_singleton lines line ih =>
    obtain ⟨hLines, hLine⟩ := neverDiffer_concat_iff.mp hSame
    simp only [behind_concat_iff, ih hLines]
    refine exists_congr fun before => and_congr_right fun hBefore => ?_
    constructor
    · intro hStep
      obtain ⟨other, hOther, -⟩ := existsUnique_step strict line before
      exact h.step_eq (hLine before hBefore) hStep hOther ▸ hOther
    · intro hStep
      obtain ⟨other, hOther, -⟩ := existsUnique_step loose line before
      exact h.step_eq (hLine before hBefore) hOther hStep ▸ hOther

/-- Two rules agree on where there is a block exactly if no line differs. -/
theorem agree_iff (h : Admits loose strict) :
    (∀ before, before <+: lines → (loose.IsInside before ↔ strict.IsInside before)) ↔
      NeverDiffer loose strict lines := by
  constructor
  · intro hAgree
    induction lines using List.reverseRecOn with
    | nil =>
      intro before line hPrefix
      simp at hPrefix
    | append_singleton lines line ih =>
      have hLines := ih fun before hPrefix =>
        hAgree before (hPrefix.trans (List.prefix_append _ _))
      refine neverDiffer_concat_iff.mpr ⟨hLines, fun opened hStrict hDiffer => ?_⟩
      -- the rules agree on all lines before this one, so it is the one that takes them apart
      have hLoose := (h.behind_iff hLines).mpr hStrict
      obtain ⟨after, hStep, -⟩ := existsUnique_step loose line opened
      obtain ⟨after', hStep', -⟩ := existsUnique_step strict line opened
      have hBehind : loose.Behind (lines ++ [line]) after :=
        behind_concat_iff.mpr ⟨opened, hLoose, hStep⟩
      have hBehind' : strict.Behind (lines ++ [line]) after' :=
        behind_concat_iff.mpr ⟨opened, hStrict, hStep'⟩
      have hSame := hAgree (lines ++ [line]) List.prefix_rfl
      rw [hBehind.isInside_iff, hBehind'.isInside_iff] at hSame
      exact h.isSome_ne_of_differ hDiffer hStep hStep' (Bool.eq_iff_iff.mpr hSame)
  · intro hSame before hPrefix
    have hBefore : NeverDiffer loose strict before := fun front line hFront =>
      hSame front line (hFront.trans hPrefix)
    have hBehind : ∀ opened, loose.Behind before opened ↔ strict.Behind before opened :=
      fun _ => h.behind_iff hBefore
    exact exists_congr fun f => hBehind (some f)

end Admits

end BlockRules

end Excerpt.Markdown
