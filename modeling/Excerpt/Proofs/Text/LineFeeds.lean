import Excerpt.Proofs.Lines
import Excerpt.Proofs.Text.Pieces

/-!
# Line feeds for the ends of lines

The lines of a text with line feeds between them are the text again, with a line feed for every end
of a line. Whether the last line was ended cannot be seen from them, so the text loses a line feed
at its end. What a splitter has taken so far stands in its hands in that form: the complete lines,
each with a line feed, the line in hand, and a line feed if it is ended by a return.

* `LineSplitter.text_foldl_push`: a splitter holds all that it has taken.
* `Text.join_lines`: the lines put together again.
* `Text.lines_eq_splitOn`: the lines are the pieces between the line feeds.
-/

namespace Excerpt

namespace Text

/-- The text with a line feed for every return, and for the line feed behind it. -/
def unified : Text → Text
  | [] => []
  | '\r' :: '\n' :: rest => '\n' :: unified rest
  | c :: rest => (if c = '\r' then '\n' else c) :: unified rest

/-- The text without a line feed at its end. -/
def dropFeed (t : Text) : Text := if t.getLast? = some '\n' then t.dropLast else t

/-- A line feed for a character that ends a line. -/
def feedFor (isBreak : Char → Bool) (c : Char) : Char := if isBreak c then '\n' else c

/-- The text with a line feed for every end of a line. -/
def withFeeds (isBreak : Char → Bool) (t : Text) : Text := (unified t).map (feedFor isBreak)

theorem unified_cons {c : Char} {rest : Text}
    (h : ∀ behind, c = '\r' → rest = '\n' :: behind → False) :
    unified (c :: rest) = (if c = '\r' then '\n' else c) :: unified rest := by
  rw [unified]
  exact h

theorem unified_ne_nil {t : Text} (h : t ≠ []) : unified t ≠ [] := by
  unfold unified
  split <;> simp_all

/-- But for returns and line feeds, the characters are those of the text. -/
theorem mem_unified_iff {t : Text} {c : Char} (hFeed : c ≠ '\n') :
    c ∈ unified t ↔ c ∈ t ∧ c ≠ '\r' := by
  induction t using unified.induct with
  | case1 => simp [unified]
  | case2 rest ih =>
    simp only [unified, List.mem_cons, ih]
    grind
  | case3 first rest hOther ih =>
    rw [unified_cons hOther, List.mem_cons, List.mem_cons, ih]
    grind

theorem withFeeds_eq_unified {isBreak : Char → Bool} {t : Text}
    (h : ∀ c ∈ t, isBreak c = true → c = '\n') : withFeeds isBreak t = unified t := by
  have hKept : ∀ c ∈ unified t, feedFor isBreak c = c := by
    intro c hc
    unfold feedFor
    split
    · rename_i hBreak
      by_cases hFeed : c = '\n'
      · exact hFeed.symm
      · exact (h c ((mem_unified_iff hFeed).mp hc).1 hBreak).symm
    · rfl
  exact (List.map_congr_left hKept).trans (List.map_id _)

theorem withFeeds_isSourceBreak (t : Text) : withFeeds isSourceBreak t = unified t :=
  withFeeds_eq_unified fun _ _ h => by simpa [isSourceBreak] using h

/-! ## Line feeds at the end -/

theorem dropFeed_snoc (t : Text) : dropFeed (t ++ ['\n']) = t := by simp [dropFeed]

theorem dropFeed_of_getLast? {t : Text} (h : t.getLast? ≠ some '\n') : dropFeed t = t := if_neg h

theorem dropFeed_append (before : Text) {after : Text} (h : after ≠ []) :
    dropFeed (before ++ after) = before ++ dropFeed after := by
  unfold dropFeed
  rw [List.getLast?_append_of_ne_nil _ h]
  split
  · rw [List.dropLast_append_of_ne_nil h]
  · rfl

/-- Only a line feed is dropped. -/
theorem exists_dropFeed_cons {c : Char} (hFeed : c ≠ '\n') (rest : Text) :
    ∃ rest', dropFeed (c :: rest) = c :: rest' := by
  cases rest with
  | nil => exact ⟨[], dropFeed_of_getLast? (by simpa using hFeed)⟩
  | cons next rest => exact ⟨_, dropFeed_append [c] (List.cons_ne_nil next rest)⟩

end Text

/-! ## What a splitter holds -/

namespace LineSplitter

/-- The text that a splitter has taken, with a line feed for every end of a line. -/
def text (s : LineSplitter) : Text :=
  s.lines.flatMap (· ++ ['\n']) ++ s.current.reverse ++ if s.afterReturn then ['\n'] else []

variable {isBreak : Char → Bool} {s : LineSplitter}

theorem text_close (h : s.afterReturn = true) : s.close.text = s.text := by
  simp [text, lines_close, h]
  simp [close]

theorem text_take (h : s.afterReturn = false) (c : Char) :
    (s.take isBreak c).text = s.text ++ [if c = '\r' then '\n' else Text.feedFor isBreak c] := by
  unfold take
  by_cases hReturn : c = '\r'
  · simp [text, lines, hReturn, h]
  · simp only [hReturn, if_false, Text.feedFor]
    split
    · simp [text, lines_close, h]
      simp [close]
    · simp [text, lines, h]

theorem text_push {c : Char} (h : s.afterReturn = true → c ≠ '\n') :
    (s.push isBreak c).text = s.text ++ [if c = '\r' then '\n' else Text.feedFor isBreak c] := by
  unfold push
  cases hReturn : s.afterReturn with
  | false => exact text_take hReturn c
  | true =>
    rw [if_pos rfl, if_neg (h hReturn), text_take rfl, text_close hReturn]

/-- Only a return leaves open whether its line has ended. -/
theorem eq_return_of_afterReturn_push {c : Char} (h : (s.push isBreak c).afterReturn = true) :
    c = '\r' := by
  by_contra hReturn
  have hTake (s : LineSplitter) (hs : s.afterReturn = false) :
      (s.take isBreak c).afterReturn = false := by
    unfold take
    rw [if_neg hReturn]
    split
    · rfl
    · exact hs
  have hPush : (s.push isBreak c).afterReturn = false := by
    unfold push
    cases hs : s.afterReturn with
    | false => exact hTake s hs
    | true =>
      rw [if_pos rfl]
      split
      · rfl
      · exact hTake s.close rfl
  cases hPush.symm.trans h

/-- A splitter holds all that it has taken. A line feed behind a return is the one character that
adds nothing, so the text must not begin with it. -/
theorem text_foldl_push (hBreak : isBreak '\n' = true) {t : Text}
    (h : s.afterReturn = true → t.head? ≠ some '\n') :
    (t.foldl (push isBreak) s).text = s.text ++ Text.withFeeds isBreak t := by
  have hFeed : Text.feedFor isBreak '\n' = '\n' := if_pos hBreak
  induction t using Text.unified.induct generalizing s with
  | case1 => simp [Text.withFeeds, Text.unified]
  | case2 rest ih =>
    have hHeld : ((s.push isBreak '\r').push isBreak '\n').text = s.text ++ ['\n'] := by
      have hReturn : (s.push isBreak '\r').text = s.text ++ ['\n'] := text_push fun _ => by decide
      have hAfter : (s.push isBreak '\r').afterReturn = true := by
        unfold push take
        split <;> simp
      rw [push_lineFeed hBreak, text_close hAfter, hReturn]
    have hClosed : ((s.push isBreak '\r').push isBreak '\n').afterReturn = false := by
      rw [push_lineFeed hBreak]
      rfl
    rw [List.foldl_cons, List.foldl_cons, ih (by simp [hClosed]), hHeld]
    simp [Text.withFeeds, Text.unified, hFeed]
  | case3 c rest hOther ih =>
    have hPushed : (s.push isBreak c).afterReturn = true → rest.head? ≠ some '\n' := by
      intro hAfter hHead
      obtain ⟨behind, rfl⟩ := List.head?_eq_some_iff.mp hHead
      exact hOther behind (eq_return_of_afterReturn_push hAfter) rfl
    have hHead : s.afterReturn = true → c ≠ '\n' := by simpa using h
    have hCons : Text.withFeeds isBreak (c :: rest) =
        (if c = '\r' then '\n' else Text.feedFor isBreak c) :: Text.withFeeds isBreak rest := by
      rw [Text.withFeeds, Text.unified_cons hOther, List.map_cons, apply_ite (Text.feedFor isBreak),
        hFeed]
      rfl
    rw [List.foldl_cons, ih hPushed, text_push hHead, hCons, List.append_assoc,
      List.singleton_append]

theorem text_eq_nil_iff : s.text = [] ↔ s.finish = [] := by
  cases hReturn : s.afterReturn <;> cases hCurrent : s.current <;> cases hDone : s.complete <;>
    simp [text, finish, lines, close, hReturn, hCurrent, hDone]

/-- What a splitter holds, by the lines that it ends with. -/
theorem join_finish (h : s.HoldsNoBreak isBreak) (hBreak : isBreak '\n' = true) :
    Text.join ['\n'] s.finish = s.text.dropFeed := by
  have hClosed : Text.join ['\n'] s.close.lines =
      s.lines.flatMap (· ++ ['\n']) ++ s.current.reverse := by
    rw [lines_close, Text.join_snoc]
  unfold finish text
  cases hReturn : s.afterReturn with
  | true => rw [Bool.true_or, if_pos rfl, if_pos rfl, hClosed, Text.dropFeed_snoc]
  | false =>
    cases hCurrent : s.current with
    | cons c rest =>
      have hLast : c ≠ '\n' := by
        rintro rfl
        have hNone := h.current '\n' (hCurrent ▸ List.mem_cons_self)
        cases hBreak.symm.trans hNone
      rw [hCurrent] at hClosed
      simp only [Bool.false_or, List.isEmpty_cons, Bool.not_false, if_true, if_false,
        Bool.false_eq_true, List.append_nil, hClosed]
      rw [Text.dropFeed_of_getLast? (by simpa using hLast)]
    | nil =>
      simp only [Bool.false_or, List.isEmpty_nil, Bool.not_true, if_false, Bool.false_eq_true,
        List.append_nil, List.reverse_nil]
      cases hLines : s.lines using List.reverseRecOn with
      | nil => rfl
      | append_singleton front last =>
        rw [Text.join_snoc, List.flatMap_append, List.flatMap_singleton, ← List.append_assoc,
          Text.dropFeed_snoc]

end LineSplitter

namespace Text

variable {isBreak : Char → Bool}

theorem text_foldl_push (hBreak : isBreak '\n' = true) (t : Text) :
    (t.foldl (LineSplitter.push isBreak) {}).text = withFeeds isBreak t := by
  rw [LineSplitter.text_foldl_push hBreak (by simp)]
  rfl

theorem join_lines (hBreak : isBreak '\n' = true) (t : Text) :
    join ['\n'] (lines isBreak t) = (withFeeds isBreak t).dropFeed := by
  rw [lines, LineSplitter.join_finish (LineSplitter.HoldsNoBreak.empty.foldl_push t) hBreak,
    text_foldl_push hBreak]

theorem lines_eq_splitOn (hBreak : isBreak '\n' = true) {t : Text} (hNe : t ≠ []) :
    lines isBreak t = splitOn '\n' (withFeeds isBreak t).dropFeed := by
  have hLines : lines isBreak t ≠ [] := by
    rw [lines, Ne, ← LineSplitter.text_eq_nil_iff, text_foldl_push hBreak]
    simpa [withFeeds] using unified_ne_nil hNe
  have hNoFeed : ∀ line ∈ lines isBreak t, '\n' ∉ line := by
    intro line hLine hMem
    cases hBreak.symm.trans (not_break_of_mem_lines hLine '\n' hMem)
  rw [← join_lines hBreak, splitOn_join hLines hNoFeed]

/-- Both rules for the ends of lines give the same lines where they end the same ones. -/
theorem lines_congr {isBreak isBreak' : Char → Bool} (hBreak : isBreak '\n' = true)
    (hBreak' : isBreak' '\n' = true) {t : Text} (h : withFeeds isBreak t = withFeeds isBreak' t) :
    lines isBreak t = lines isBreak' t := by
  by_cases hNe : t = []
  · rw [hNe, lines_nil, lines_nil]
  · rw [lines_eq_splitOn hBreak hNe, lines_eq_splitOn hBreak' hNe, h]

/-- The lines up to the end of one are those of the text up to there. -/
theorem exists_splitOn_dropFeed (before after : Text) :
    ∃ more, splitOn '\n' (before ++ '\n' :: after).dropFeed = splitOn '\n' before ++ more := by
  cases after with
  | nil => exact ⟨[], by rw [dropFeed_snoc, List.append_nil]⟩
  | cons c rest =>
    refine ⟨splitOn '\n' (dropFeed (c :: rest)), ?_⟩
    rw [← List.singleton_append, ← List.append_assoc, dropFeed_append _ (List.cons_ne_nil c rest),
      List.append_assoc, List.singleton_append, splitOn_append_separator]

end Text

end Excerpt
