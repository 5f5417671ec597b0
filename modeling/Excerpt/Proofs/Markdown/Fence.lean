import Excerpt.Proofs.Markdown.Block
import Excerpt.Proofs.Text.Pieces

/-!
# Fences as they stand in a line

A line is a fence by the run of marks in it, which is found behind at most three blanks and taken as
long as it is. The rules by which lines are read ask for no more. The rules of Markdown do: the
blanks in front are spaces, no backtick stands behind a run of backticks that opens a block, and
nothing but blanks stands behind a run that closes one.

* `Fence.ofLine?_eq_some_iff`: the lines that are read as a given fence.
* `Fence.behind_stateBehind`: the state kept along the lines is that of the blocks in them.
* `Fence.isMisread_iff`: the lines on which the two rules differ.
-/

namespace Excerpt.Markdown.Fence

/-- A fence in a line, with the blanks in front of it and the rest behind it, which does not go on
with the mark. -/
structure StandsIn (f : Fence) (blanks rest line : Text) : Prop where
  line_eq : line = blanks ++ (List.replicate f.length f.mark ++ rest)
  blank : blanks.isBlank = true
  near : blanks.length ≤ 3
  marked : f.mark = '\x60' ∨ f.mark = '~'
  long : 3 ≤ f.length
  whole : rest.head? ≠ some f.mark

variable {f g opening : Fence} {blanks rest blanks' rest' line : Text} {lines before : List Text}

/-! ## The run of a line -/

theorem isBlank_mark (h : f.mark = '\x60' ∨ f.mark = '~') : isBlank f.mark = false := by
  rcases h with h | h <;> rw [h] <;> decide

theorem takeWhile_run {c : Char} (h : rest.head? ≠ some c) (n : Nat) :
    (List.replicate n c ++ rest).takeWhile (· == c) = List.replicate n c := by
  have hRest : rest.takeWhile (· == c) = [] := by
    cases rest with
    | nil => rfl
    | cons d rest => exact List.takeWhile_cons_of_neg (by simpa using h)
  rw [List.takeWhile_append_of_pos (by simp), hRest, List.append_nil]

namespace StandsIn

theorem run_eq (h : f.StandsIn blanks rest line) :
    List.replicate f.length f.mark ++ rest =
      f.mark :: (List.replicate (f.length - 1) f.mark ++ rest) := by
  obtain ⟨n, hn⟩ := Nat.exists_eq_add_of_le' (Nat.le_of_succ_le (Nat.le_of_succ_le h.long))
  rw [hn, List.replicate_succ, List.cons_append, Nat.add_sub_cancel]

theorem indentation_eq (h : f.StandsIn blanks rest line) : Text.indentation line = blanks := by
  rw [h.line_eq, h.run_eq]
  exact Text.takeWhile_until (Text.isBlank_iff.mp h.blank) (isBlank_mark h.marked) _

theorem trimStart_eq (h : f.StandsIn blanks rest line) :
    Text.trimStart line = List.replicate f.length f.mark ++ rest := by
  rw [h.line_eq, h.run_eq]
  exact Text.dropWhile_until (Text.isBlank_iff.mp h.blank) (isBlank_mark h.marked) _

/-- The run of a line, the blanks in front of it and the rest are given by the line. -/
theorem unique (h : f.StandsIn blanks rest line) (h' : g.StandsIn blanks' rest' line) :
    f = g ∧ blanks = blanks' ∧ rest = rest' := by
  have hRun : List.replicate f.length f.mark ++ rest = List.replicate g.length g.mark ++ rest' :=
    h.trimStart_eq.symm.trans h'.trimStart_eq
  have hMark : f.mark = g.mark := by
    rw [h.run_eq, h'.run_eq] at hRun
    exact (List.cons.inj hRun).1
  have hLength : f.length = g.length := by
    have hTaken := congrArg (List.takeWhile (· == f.mark)) hRun
    rw [takeWhile_run h.whole, hMark, takeWhile_run h'.whole] at hTaken
    simpa using congrArg List.length hTaken
  refine ⟨?_, h.indentation_eq.symm.trans h'.indentation_eq, ?_⟩
  · cases f
    cases g
    cases hMark
    cases hLength
    rfl
  · rw [hMark, hLength] at hRun
    exact List.append_cancel_left hRun

end StandsIn

theorem run_append_dropWhile (c : Char) (t : Text) :
    List.replicate (t.takeWhile (· == c)).length c ++ t.dropWhile (· == c) = t := by
  have hMarks : t.takeWhile (· == c) = List.replicate (t.takeWhile (· == c)).length c :=
    List.eq_replicate_length.mpr fun d hd => by simpa using List.mem_takeWhile_imp hd
  rw [← hMarks, List.takeWhile_append_dropWhile]

theorem head?_dropWhile_ne (c : Char) (t : Text) : (t.dropWhile (· == c)).head? ≠ some c := by
  intro hHead
  have hNot := List.head?_dropWhile_not (· == c) t
  simp [hHead] at hNot

theorem isOneLine_of_not_mem (h : '\n' ∉ rest) : isOneLine rest = true := by
  have hLast : rest.getLast? ≠ some '\n' := fun hLast => h (List.mem_of_getLast? hLast)
  simp [isOneLine, hLast, h]

theorem standsIn_of_ofLine? (h : ofLine? line = some f) :
    ∃ blanks rest, f.StandsIn blanks rest line := by
  unfold ofLine? at h
  split at h
  · cases h
  · rename_i hNear
    dsimp only at h
    split at h
    · cases h
    · rename_i c tail hTrim
      split at h
      · rename_i hRun
        obtain rfl := Option.some.inj h
        simp only [Bool.and_eq_true, Bool.or_eq_true, decide_eq_true_eq] at hRun
        obtain ⟨⟨hMark, hLong⟩, -⟩ := hRun
        refine ⟨Text.indentation line, (Text.trimStart line).dropWhile (· == c), ?_,
          List.all_takeWhile, Nat.le_of_not_lt hNear, hMark, hLong, head?_dropWhile_ne c _⟩
        dsimp only
        rw [run_append_dropWhile, Text.indentation_append_trimStart]
      · cases h

theorem StandsIn.ofLine?_eq (h : f.StandsIn blanks rest line) (hLine : '\n' ∉ line) :
    ofLine? line = some f := by
  have hOne : isOneLine rest = true := by
    refine isOneLine_of_not_mem fun hMem => hLine ?_
    rw [h.line_eq]
    exact List.mem_append_right _ (List.mem_append_right _ hMem)
  unfold ofLine?
  rw [h.indentation_eq, if_neg (Nat.not_lt.mpr h.near), h.trimStart_eq, h.run_eq]
  dsimp only
  rw [← h.run_eq, takeWhile_run h.whole, List.length_replicate,
    List.drop_left' (List.length_replicate ..), hOne]
  simp [h.marked, h.long]

/-- The lines that are read as a fence. -/
theorem ofLine?_eq_some_iff (hLine : '\n' ∉ line) :
    ofLine? line = some f ↔ ∃ blanks rest, f.StandsIn blanks rest line := by
  constructor
  · exact standsIn_of_ofLine?
  · rintro ⟨blanks, rest, h⟩
    exact h.ofLine?_eq hLine

/-! ## Rules -/

/-- The rules by which lines are read. -/
def loose : BlockRules where
  Opens line f := ∃ blanks rest, f.StandsIn blanks rest line
  Closes opening line := ∃ (f : Fence) (blanks rest : Text),
    f.StandsIn blanks rest line ∧ f.closes opening = true
  opens_unique := fun ⟨_, _, h⟩ ⟨_, _, h'⟩ => (h.unique h').1

/-- The rules of Markdown. -/
def strict : BlockRules where
  Opens line f := ∃ blanks rest, f.StandsIn blanks rest line ∧ (∀ c ∈ blanks, c = ' ') ∧
    (f.mark = '\x60' → '\x60' ∉ rest)
  Closes opening line := ∃ (f : Fence) (blanks rest : Text),
    f.StandsIn blanks rest line ∧ f.closes opening = true ∧ (∀ c ∈ blanks, c = ' ') ∧
      rest.isBlank = true
  opens_unique := fun ⟨_, _, h, _⟩ ⟨_, _, h', _⟩ => (h.unique h').1

theorem admits_strict : BlockRules.Admits loose strict where
  opens := fun ⟨blanks, rest, h, _⟩ => ⟨blanks, rest, h⟩
  closes := fun ⟨f, blanks, rest, h, hCloses, _⟩ => ⟨f, blanks, rest, h, hCloses⟩

theorem step_stateBehind (hLine : '\n' ∉ line) (opened : Option Fence) :
    loose.Step line opened (stateBehind opened line) := by
  unfold stateBehind
  cases hFence : ofLine? line with
  | none =>
    have hNone : ∀ f blanks rest, ¬ StandsIn f blanks rest line := by
      intro f blanks rest h
      cases hFence.symm.trans (h.ofLine?_eq hLine)
    cases opened with
    | none => exact .plain fun f ⟨blanks, rest, h⟩ => hNone f blanks rest h
    | some opening => exact .inner fun ⟨f, blanks, rest, h, _⟩ => hNone f blanks rest h
  | some f =>
    obtain ⟨blanks, rest, h⟩ := standsIn_of_ofLine? hFence
    cases opened with
    | none => exact .opener ⟨blanks, rest, h⟩
    | some opening =>
      by_cases hCloses : f.closes opening = true
      · simp only [if_pos hCloses]
        exact .closer ⟨f, blanks, rest, h, hCloses⟩
      · simp only [if_neg hCloses]
        refine .inner ?_
        rintro ⟨g, blanks', rest', h', hCloses'⟩
        exact hCloses ((h'.unique h).1 ▸ hCloses')

/-- The state that is kept along the lines is that of the blocks in them. -/
theorem behind_stateBehind (hLines : ∀ line ∈ lines, '\n' ∉ line) :
    loose.Behind lines (lines.foldl stateBehind none) := by
  induction lines using List.reverseRecOn with
  | nil => exact .nil
  | append_singleton lines line ih =>
    rw [List.forall_mem_append, List.forall_mem_singleton] at hLines
    rw [List.foldl_append]
    exact BlockRules.behind_concat_iff.mpr ⟨_, ih hLines.1, step_stateBehind hLines.2 _⟩

/-! ## Lines that are misread -/

/-- A line that is taken for the start or the end of a block against the rules of Markdown. -/
inductive IsMisread (before : List Text) (line : Text) : Prop
  | opener {f : Fence} {blanks rest : Text} (hBefore : strict.Outside before)
      (hLine : f.StandsIn blanks rest line)
      (hRule : (∃ c ∈ blanks, c ≠ ' ') ∨ f.mark = '\x60' ∧ '\x60' ∈ rest)
  | closer {opening f : Fence} {blanks rest : Text} (hBefore : strict.Inside before opening)
      (hLine : f.StandsIn blanks rest line) (hCloses : f.closes opening = true)
      (hRule : (∃ c ∈ blanks, c ≠ ' ') ∨ rest.isBlank = false)

theorem isMisread_iff : IsMisread before line ↔
    ∃ opened, strict.Behind before opened ∧ BlockRules.Differ loose strict line opened := by
  constructor
  · intro h
    cases h with
    | @opener f blanks rest hBefore hLine hRule =>
      refine ⟨none, hBefore, f, ⟨blanks, rest, hLine⟩, ?_⟩
      rintro ⟨blanks', rest', hLine', hSpaces, hRest⟩
      obtain ⟨-, rfl, rfl⟩ := hLine.unique hLine'
      rcases hRule with ⟨c, hc, hNot⟩ | ⟨hMark, hMem⟩
      · exact hNot (hSpaces c hc)
      · exact hRest hMark hMem
    | @closer opening f blanks rest hBefore hLine hCloses hRule =>
      refine ⟨some opening, hBefore, ⟨f, blanks, rest, hLine, hCloses⟩, ?_⟩
      rintro ⟨f', blanks', rest', hLine', -, hSpaces, hBlank⟩
      obtain ⟨-, rfl, rfl⟩ := hLine.unique hLine'
      rcases hRule with ⟨c, hc, hNot⟩ | hRest
      · exact hNot (hSpaces c hc)
      · cases hRest.symm.trans hBlank
  · rintro ⟨none | opening, hBefore, hDiffer⟩
    · obtain ⟨f, ⟨blanks, rest, hLine⟩, hNot⟩ := hDiffer
      refine .opener hBefore hLine ?_
      by_contra hRule
      push Not at hRule
      exact hNot ⟨blanks, rest, hLine, hRule.1, hRule.2⟩
    · obtain ⟨⟨f, blanks, rest, hLine, hCloses⟩, hNot⟩ := hDiffer
      refine .closer hBefore hLine hCloses ?_
      by_contra hRule
      push Not at hRule
      exact hNot ⟨f, blanks, rest, hLine, hCloses, hRule.1, by simpa using hRule.2⟩

end Excerpt.Markdown.Fence
