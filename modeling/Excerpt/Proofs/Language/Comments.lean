import Excerpt.Proofs.Render.Survival
import Excerpt.Proofs.Text.Pieces

/-!
# Lines that hold nothing but comments

A line holds only comments if each of them begins where the one before it ends, but for blanks, and
nothing but blanks stands behind the last one. A line holds code if behind the comments that it
begins with something stands that begins no comment. A line that is not blank is either the one or
the other.

A line is taken for a comment as soon as it begins with one. That is too much for a line with code
behind a comment that ends inside the line, and for no other line: such a line is hidden with the
comments, and its code with it.

* `Text.exists_behindFirst`, `Text.BehindFirst.unique`: what stands behind the first place of a
  text.
* `CommentStyle.not_holdsCode`, `CommentStyle.onlyComments_or_holdsCode`: either the one or the
  other.
* `CommentStyle.isComment_iff`: the lines that are taken for comments.
* `Rendering.hides_comments`: the lines that are hidden.
* `Rendering.not_hides_onlyComments`: a line of code that is hidden.
-/

namespace Excerpt

/-! ## Behind the first place of a text -/

namespace Text

variable {needle t after after' : Text}

/-- What stands behind the first place where a text stands in another. -/
def BehindFirst (needle t after : Text) : Prop :=
  ∃ before, t = before ++ needle ++ after ∧
    ∀ before' after', t = before' ++ needle ++ after' → before.length ≤ before'.length

theorem BehindFirst.unique (h : BehindFirst needle t after) (h' : BehindFirst needle t after') :
    after = after' := by
  obtain ⟨before, hText, hFirst⟩ := h
  obtain ⟨before', hText', hFirst'⟩ := h'
  have hLength : before.length = before'.length :=
    Nat.le_antisymm (hFirst before' after' hText') (hFirst' before after hText)
  rw [hText, List.append_assoc, List.append_assoc] at hText'
  obtain ⟨-, hBehind⟩ := List.append_inj hText' hLength
  exact List.append_cancel_left hBehind

theorem BehindFirst.isInfix (h : BehindFirst needle t after) : needle <:+: t := by
  obtain ⟨before, hText, -⟩ := h
  exact ⟨before, after, hText.symm⟩

theorem BehindFirst.length_le (h : BehindFirst needle t after) : after.length ≤ t.length := by
  obtain ⟨before, rfl, -⟩ := h
  simp only [List.length_append]
  omega

theorem behindFirst_self (needle after : Text) : BehindFirst needle (needle ++ after) after := by
  refine ⟨[], rfl, ?_⟩
  intro before' after' _
  exact Nat.zero_le _

/-- What begins with a character that does not stand in front of it stands there first. -/
theorem behindFirst_of_not_mem {c : Char} {before : Text} (h : c ∉ before) (needle after : Text) :
    BehindFirst (c :: needle) (before ++ c :: needle ++ after) after := by
  refine ⟨before, rfl, ?_⟩
  intro before' after' hText
  by_contra hShorter
  have hHere : (before ++ c :: needle ++ after)[before'.length]? = some c := by
    rw [hText]
    simp
  rw [List.append_assoc, List.getElem?_append_left (by omega)] at hHere
  exact h (List.mem_of_getElem? hHere)

theorem exists_behindFirst (h : needle <:+: t) : ∃ after, BehindFirst needle t after := by
  induction t with
  | nil =>
    obtain rfl := List.infix_nil.mp h
    exact ⟨[], behindFirst_self [] []⟩
  | cons c rest ih =>
    by_cases hHere : needle <+: c :: rest
    · obtain ⟨after, hText⟩ := hHere
      rw [← hText]
      exact ⟨after, behindFirst_self needle after⟩
    · obtain ⟨after, before, hText, hFirst⟩ := ih ((List.infix_cons_iff.mp h).resolve_left hHere)
      refine ⟨after, c :: before, by simp [hText], ?_⟩
      intro before' after' hText'
      cases before' with
      | nil =>
        rw [hText'] at hHere
        exact absurd (List.prefix_append needle after') hHere
      | cons d before' =>
        obtain ⟨-, hRest⟩ := List.cons.inj hText'
        have hLength := hFirst before' after' hRest
        simp only [List.length_cons]
        omega

/-- A line that begins with something behind its blanks is not blank. -/
theorem isBlank_of_prefix {line : Text} (hNe : needle ≠ []) (h : needle <+: trimStart line) :
    line.isBlank = false := by
  by_contra hBlank
  rw [Bool.not_eq_false, ← trimStart_eq_nil_iff] at hBlank
  rw [hBlank] at h
  exact hNe (List.prefix_nil.mp h)

end Text

/-! ## Lines of comments and lines of code -/

namespace CommentStyle

variable {s : CommentStyle} {line rest after : Text}

/-- Whether a comment inside the line begins behind the blanks of the line. -/
def BeginsInside (s : CommentStyle) (line : Text) : Prop :=
  s.hasBlocks = true ∧ s.opening <+: Text.trimStart line

instance (s : CommentStyle) (line : Text) : Decidable (s.BeginsInside line) :=
  inferInstanceAs (Decidable (_ ∧ _))

/-- A comment inside the line begins behind the blanks, in front of the rest. -/
def Opens (s : CommentStyle) (line rest : Text) : Prop :=
  s.hasBlocks = true ∧ Text.trimStart line = s.opening ++ rest

/-- Whether the line holds nothing but comments. -/
inductive OnlyComments (s : CommentStyle) : Text → Prop
  | toEnd {line : Text} (hLine : s.line <+: Text.trimStart line) (hInside : ¬ s.BeginsInside line) :
      OnlyComments s line
  | unclosed {line rest : Text} (hOpens : s.Opens line rest) (hClosing : ¬ s.closing <:+: rest) :
      OnlyComments s line
  | closed {line rest after : Text} (hOpens : s.Opens line rest)
      (hClosing : Text.BehindFirst s.closing rest after) (hBlank : after.isBlank = true) :
      OnlyComments s line
  | behind {line rest after : Text} (hOpens : s.Opens line rest)
      (hClosing : Text.BehindFirst s.closing rest after) (hAfter : OnlyComments s after) :
      OnlyComments s line

/-- Whether something stands in the line that is no comment, in front of all comments or behind
those that the line begins with. -/
inductive HoldsCode (s : CommentStyle) : Text → Prop
  | here {line : Text} (hBlank : line.isBlank = false) (hLine : ¬ s.line <+: Text.trimStart line)
      (hInside : ¬ s.BeginsInside line) : HoldsCode s line
  | behind {line rest after : Text} (hOpens : s.Opens line rest)
      (hClosing : Text.BehindFirst s.closing rest after) (hAfter : HoldsCode s after) :
      HoldsCode s line

theorem Opens.beginsInside (h : s.Opens line rest) : s.BeginsInside line :=
  ⟨h.1, rest, h.2.symm⟩

theorem BeginsInside.exists_opens (h : s.BeginsInside line) : ∃ rest, s.Opens line rest := by
  obtain ⟨hBlocks, rest, hText⟩ := h
  exact ⟨rest, hBlocks, hText.symm⟩

theorem Opens.unique {rest' : Text} (h : s.Opens line rest) (h' : s.Opens line rest') :
    rest = rest' :=
  List.append_cancel_left (h.2.symm.trans h'.2)

theorem opening_ne_nil (h : s.hasBlocks = true) : s.opening ≠ [] := by
  simpa [hasBlocks] using h

theorem Opens.length_lt (h : s.Opens line rest) : rest.length < line.length := by
  have hOpening := List.length_pos_of_ne_nil (opening_ne_nil h.1)
  have hTrim : (Text.trimStart line).length ≤ line.length := (List.dropWhile_suffix _).length_le
  have hLength := congrArg List.length h.2
  rw [List.length_append] at hLength
  omega

theorem BeginsInside.isBlank (h : s.BeginsInside line) : line.isBlank = false :=
  Text.isBlank_of_prefix (opening_ne_nil h.1) h.2

theorem HoldsCode.isBlank (h : s.HoldsCode line) : line.isBlank = false := by
  cases h with
  | here hBlank => exact hBlank
  | behind hOpens => exact hOpens.beginsInside.isBlank

/-- A line of code that begins with a comment has its code behind it. -/
theorem HoldsCode.of_behind (h : s.HoldsCode line) (hOpens : s.Opens line rest)
    (hClosing : Text.BehindFirst s.closing rest after) : s.HoldsCode after := by
  cases h with
  | here _ _ hInside => exact absurd hOpens.beginsInside hInside
  | behind hOpens' hClosing' hAfter =>
    obtain rfl := hOpens'.unique hOpens
    obtain rfl := hClosing'.unique hClosing
    exact hAfter

theorem not_holdsCode (h : s.OnlyComments line) : ¬ s.HoldsCode line := by
  intro hCode
  induction h with
  | toEnd hLine hInside =>
    cases hCode with
    | here _ hNotLine => exact hNotLine hLine
    | behind hOpens => exact hInside hOpens.beginsInside
  | unclosed hOpens hUnclosed =>
    cases hCode with
    | here _ _ hInside => exact hInside hOpens.beginsInside
    | behind hOpens' hClosing =>
      obtain rfl := hOpens'.unique hOpens
      exact hUnclosed hClosing.isInfix
  | closed hOpens hClosing hBlank =>
    have hAfter := (hCode.of_behind hOpens hClosing).isBlank
    rw [hBlank] at hAfter
    cases hAfter
  | behind hOpens hClosing _ ih => exact ih (hCode.of_behind hOpens hClosing)

/-- The induction is on the length of the line: what stands behind a comment is shorter. -/
theorem onlyComments_or_holdsCode (hBlank : line.isBlank = false) :
    s.OnlyComments line ∨ s.HoldsCode line := by
  induction hLength : line.length using Nat.strongRecOn generalizing line with
  | ind n ih =>
    by_cases hInside : s.BeginsInside line
    · obtain ⟨rest, hOpens⟩ := hInside.exists_opens
      by_cases hClosing : s.closing <:+: rest
      · obtain ⟨after, hAfter⟩ := Text.exists_behindFirst hClosing
        cases hEnd : after.isBlank with
        | true => exact .inl (.closed hOpens hAfter hEnd)
        | false =>
          have hShorter := hOpens.length_lt
          have hLe := hAfter.length_le
          have hRest := ih after.length (by omega) hEnd rfl
          exact hRest.imp (.behind hOpens hAfter) (.behind hOpens hAfter)
      · exact .inl (.unclosed hOpens hClosing)
    · by_cases hLine : s.line <+: Text.trimStart line
      · exact .inl (.toEnd hLine hInside)
      · exact .inr (.here hBlank hLine hInside)

/-! ## What is taken for a comment -/

/-- Whether the line begins with a comment behind its blanks. -/
def BeginsComment (s : CommentStyle) (line : Text) : Prop :=
  s.line <+: Text.trimStart line ∨ s.BeginsInside line

theorem BeginsComment.isBlank (h : s.BeginsComment line) (hLine : s.line ≠ []) :
    line.isBlank = false := by
  rcases h with hToEnd | hInside
  · exact Text.isBlank_of_prefix hLine hToEnd
  · exact hInside.isBlank

theorem isComment_iff_begins (h : s.line ≠ []) :
    s.isComment line = true ↔ s.BeginsComment line := by
  unfold isComment
  simp only [Bool.and_eq_true, Bool.or_eq_true, List.isPrefixOf_iff_prefix]
  apply and_iff_right_of_imp
  intro hBegins
  have hNotBlank := BeginsComment.isBlank hBegins h
  rw [Bool.eq_false_iff, Ne, ← Text.trimStart_eq_nil_iff] at hNotBlank
  simpa using hNotBlank

theorem OnlyComments.begins (h : s.OnlyComments line) : s.BeginsComment line := by
  cases h with
  | toEnd hLine _ => exact .inl hLine
  | unclosed hOpens _ => exact .inr hOpens.beginsInside
  | closed hOpens _ _ => exact .inr hOpens.beginsInside
  | behind hOpens _ _ => exact .inr hOpens.beginsInside

/-- What is taken for a comment holds only comments, or it begins with one and holds code. -/
theorem isComment_iff (h : s.line ≠ []) :
    s.isComment line = true ↔ s.OnlyComments line ∨ s.BeginsInside line ∧ s.HoldsCode line := by
  rw [isComment_iff_begins h]
  constructor
  · intro hBegins
    rcases onlyComments_or_holdsCode (s := s) (hBegins.isBlank h) with hOnly | hCode
    · exact .inl hOnly
    · refine .inr ⟨?_, hCode⟩
      cases hCode with
      | here _ hLine hInside => exact absurd hBegins (not_or_intro hLine hInside)
      | behind hOpens => exact hOpens.beginsInside
  · rintro (hOnly | ⟨hInside, -⟩)
    · exact hOnly.begins
    · exact .inr hInside

/-! ## The styles of the languages -/

/-- What holds of each style holds of that of every language. -/
theorem ofTag_of_styles {P : CommentStyle → Prop} (hHash : P hash) (hDashes : P dashes)
    (hLong : P longBrackets) (hBraces : P braceDashes) (hSlashes : P slashes) (tag : Text) :
    P (ofTag tag) := by
  unfold ofTag
  dsimp only
  split
  · exact hHash
  · split
    · exact hDashes
    · split
      · exact hLong
      · split
        · exact hBraces
        · exact hSlashes

theorem line_ne_nil (tag : Text) : (ofTag tag).line ≠ [] :=
  ofTag_of_styles (P := fun s => s.line ≠ []) (by decide) (by decide) (by decide) (by decide)
    (by decide) tag

/-- In a language with comments inside a line, one that is empty can stand in front of code. -/
theorem exists_comment_before_code (tag : Text) (h : (ofTag tag).hasBlocks = true) :
    ∃ line, (ofTag tag).BeginsInside line ∧ (ofTag tag).HoldsCode line := by
  have hCode (s : CommentStyle) (hBlocks : s.hasBlocks = true)
      (hTrim : Text.trimStart (s.opening ++ (s.closing ++ ['x'])) =
        s.opening ++ (s.closing ++ ['x']))
      (hLine : ¬ s.line <+: Text.trimStart ['x']) (hInside : ¬ s.BeginsInside ['x']) :
      ∃ line, s.BeginsInside line ∧ s.HoldsCode line := by
    have hOpens : s.Opens (s.opening ++ (s.closing ++ ['x'])) (s.closing ++ ['x']) :=
      ⟨hBlocks, hTrim⟩
    exact ⟨_, hOpens.beginsInside,
      .behind hOpens (Text.behindFirst_self _ _) (.here (by decide) hLine hInside)⟩
  revert h
  refine ofTag_of_styles
    (P := fun s => s.hasBlocks = true → ∃ line, s.BeginsInside line ∧ s.HoldsCode line)
    ?_ ?_ ?_ ?_ ?_ tag
  · intro h
    cases h
  all_goals
    intro h
    exact hCode _ h (by decide) (by decide) (by decide)

end CommentStyle

/-! ## Lines that are hidden -/

namespace Rendering

open CommentStyle

variable {r : Rendering} {block : CodeBlock} {n : Nat} {raw : Text}

theorem mem_kept_iff_of_no_match (hMatch : r.edits.firstMatch n = none)
    (hHide : r.options.hideComments = true) (hLine : (n, raw) ∈ block.numbered) :
    (n, raw) ∈ r.kept block ↔ r.style.isComment raw = false := by
  have hDrops : r.Drops block n raw ↔ r.style.isComment raw = true := by
    rw [← edited_eq_none_iff]
    unfold edited
    rw [hMatch, hHide]
    simp
  unfold kept
  rw [List.mem_filter, and_iff_right hLine, Bool.not_eq_true', decide_eq_false_iff_not, hDrops,
    Bool.not_eq_true]

/-- What is taken for a comment, and what becomes of the lines about which no edit decides. -/
theorem hides_comments (tag : Text) :
    (∀ line, (ofTag tag).isComment line = true ↔
      (ofTag tag).OnlyComments line ∨
        (ofTag tag).BeginsInside line ∧ (ofTag tag).HoldsCode line) ∧
    ((∀ line, (ofTag tag).isComment line = true → (ofTag tag).OnlyComments line) ↔
      (ofTag tag).hasBlocks = false) ∧
    ∀ (r : Rendering) (block : CodeBlock), r.style = ofTag tag → r.options.hideComments = true →
      (∀ rendered, r.lines block = .ok rendered →
        List.Forall₂ (fun p text => r.line block p.1 p.2 = .ok (some text)) (r.kept block)
          rendered) ∧
      ∀ n raw, (n, raw) ∈ block.numbered → r.edits.firstMatch n = none →
        (ofTag tag).HoldsCode raw →
        ((n, raw) ∈ r.kept block ↔ ¬ (ofTag tag).BeginsInside raw) := by
  have hComment (line : Text) := @isComment_iff (ofTag tag) line (line_ne_nil tag)
  refine ⟨hComment, ?_, ?_⟩
  · constructor
    · intro hOnly
      by_contra hBlocks
      obtain ⟨line, hInside, hCode⟩ := exists_comment_before_code tag (by simpa using hBlocks)
      exact not_holdsCode (hOnly line ((hComment line).mpr (.inr ⟨hInside, hCode⟩))) hCode
    · intro hBlocks line hLine
      rcases (hComment line).mp hLine with hOnly | ⟨hInside, -⟩
      · exact hOnly
      · cases hBlocks.symm.trans hInside.1
  · intro r block hStyle hHide
    refine ⟨fun _ => forall₂_kept, ?_⟩
    intro n raw hLine hMatch hCode
    have hNotOnly : ¬ (ofTag tag).OnlyComments raw := fun hOnly => not_holdsCode hOnly hCode
    rw [mem_kept_iff_of_no_match hMatch hHide hLine, hStyle, ← Bool.not_eq_true, hComment,
      or_iff_right hNotOnly, and_iff_left hCode]

/-- A line with code behind a comment. -/
def commentedLine : Text := "/* a */ x = 1;".toList

theorem holdsCode_commentedLine : (ofTag "cpp".toList).HoldsCode commentedLine := by
  have hOpens : (ofTag "cpp".toList).Opens commentedLine " a */ x = 1;".toList :=
    ⟨by decide, by decide⟩
  have hClosing : Text.BehindFirst (ofTag "cpp".toList).closing " a */ x = 1;".toList
      " x = 1;".toList :=
    @Text.behindFirst_of_not_mem '*' " a ".toList (by decide) ['/'] _
  exact .behind hOpens hClosing (.here (by decide) (by decide) (by decide))

/-- A line of code is kept if its comment stands behind the code. -/
theorem hides_comments_twoLines :
    ∃ (r : Rendering) (block : CodeBlock), r.style = ofTag "cpp".toList ∧
      r.options.hideComments = true ∧ (1, commentedLine) ∉ r.kept block ∧
      (2, "y(); /* b */".toList) ∈ r.kept block := by
  let r : Rendering := ⟨ofTag "cpp".toList, {}, {}, ⟨0, true⟩⟩
  let block : CodeBlock :=
    ⟨⟨1, 2, by decide, by decide⟩, [commentedLine, "y(); /* b */".toList]⟩
  obtain ⟨-, hKept⟩ := (hides_comments "cpp".toList).2.2 r block rfl rfl
  refine ⟨r, block, rfl, rfl, ?_, ?_⟩
  · rw [hKept 1 commentedLine (by decide) rfl holdsCode_commentedLine, not_not]
    decide
  · have hCode : (ofTag "cpp".toList).HoldsCode "y(); /* b */".toList :=
      .here (by decide) (by decide) (by decide)
    apply (hKept 2 "y(); /* b */".toList (by decide) rfl hCode).mpr
    decide

/-- The line is taken for a comment, though it holds code, and so it is hidden. -/
theorem not_hides_onlyComments :
    (ofTag "cpp".toList).isComment commentedLine = true ∧
    ¬ (ofTag "cpp".toList).OnlyComments commentedLine ∧
    lines ⟨ofTag "cpp".toList, {}, {}, ⟨0, true⟩⟩
      ⟨⟨1, 1, by decide, by decide⟩, [commentedLine]⟩ = .ok [] := by
  refine ⟨by decide, ?_, by rfl⟩
  intro hOnly
  exact not_holdsCode hOnly holdsCode_commentedLine

end Rendering

end Excerpt
