import Excerpt.Proofs.Command.Suffixes
import Excerpt.Proofs.Insertion.Phases
import Excerpt.Proofs.Selector.Numbers

/-!
# What the readers of selectors and options refuse

The readers of what stands between brackets have no faults but those of how it is written.

* `failsBy_readBlock`: the faults of a block.
* `failsBy_readHighlights`, `failsBy_readEdits`: the faults of a body.
* `failsBy_readSuffixes`: the faults of all that stands behind a command.
-/

namespace Excerpt

/-! ## Pieces of a body -/

theorem infix_of_splitBlocks {depth : Int} {current t block : Text}
    (h : block ∈ splitBlocks depth current t) : block <:+: current.reverse ++ t := by
  induction t generalizing depth current with
  | nil =>
    rw [splitBlocks, List.mem_singleton] at h
    simp [h]
  | cons c rest ih =>
    have hStep : (c :: current).reverse ++ rest = current.reverse ++ c :: rest := by simp
    unfold splitBlocks at h
    split at h
    · rcases List.mem_cons.mp h with rfl | h
      · exact (List.prefix_append _ _).isInfix
      · have hRest := ih h
        exact hRest.trans ⟨current.reverse ++ [c], [], by simp⟩
    · exact hStep ▸ ih h

theorem infix_of_mem_blocks {body block : Text} (h : block ∈ blocks body) : block <:+: body := by
  unfold blocks at h
  split at h
  · cases h
  · obtain ⟨piece, hPiece, rfl⟩ := List.mem_map.mp h
    exact (Text.infix_of_trim piece).trans (infix_of_splitBlocks hPiece)

theorem infix_of_unbrace (spans : Text) : unbrace spans <:+: spans := by
  unfold unbrace
  split
  · rename_i rest
    split
    · exact rest.dropLast_prefix.isInfix.trans (List.suffix_cons _ _).isInfix
    · exact List.infix_rfl
  · exact List.infix_rfl

/-! ## Blocks -/

theorem failsBy_charRange (t : Text) (line first last : Int) :
    FailsBy (Fault.IsOf · t) (CharRange.of line first last) := by
  unfold CharRange.of
  split
  · exact failsBy_ok _
  · exact failsBy_error (.inl rfl)

theorem readColumns_eq (line : Nat) (span : Text) : readColumns line span =
    readSpan "character range".toList span >>= fun ends =>
      (CharRange.of line ends.1 ends.2).map .columns := by
  unfold readColumns
  cases readSpan "character range".toList span <;> rfl

theorem failsBy_readColumns (line : Nat) (span : Text) :
    FailsBy (Fault.IsOf · span) (readColumns line span) := by
  rw [readColumns_eq]
  refine failsBy_bind (failsBy_readSpan _ _) fun ends _ => ?_
  exact failsBy_map (failsBy_charRange _ _ _ _) _

theorem readBlockLines_eq (block : Text) : readBlock.readLines block =
    if block.contains '-' then
      readSpan "line range".toList block >>= fun ends =>
        (LineRange.of ends.1 ends.2).map fun r => [.range r]
    else
      readNumber "line number".toList block >>= fun line =>
        (LineNumber.of line).map fun n => [.line n] := by
  unfold readBlock.readLines
  split
  · cases readSpan "line range".toList block <;> rfl
  · cases readNumber "line number".toList block <;> rfl

theorem failsBy_readBlockLines (block : Text) :
    FailsBy (Fault.IsOf · block) (readBlock.readLines block) := by
  rw [readBlockLines_eq]
  split
  · refine failsBy_bind (failsBy_readSpan _ _) fun ends hEnds => ?_
    obtain ⟨hFirst, hLast⟩ := lt_of_readSpan hEnds
    exact failsBy_map (failsBy_lineRange hFirst hLast _) _
  · refine failsBy_bind (failsBy_readNumber _ _) fun line _ => ?_
    exact failsBy_map (failsBy_lineNumber _ _) _

theorem readBlock_of_columnParts {block before after : Text}
    (h : columnParts? block = some (before, after)) : readBlock block =
      readNumber "line number".toList before >>= fun line =>
        (Text.splitOn '|' (unbrace (Text.trim after))).mapM (readColumns line) := by
  have hNe : block.isEmpty = false := by
    obtain ⟨rfl, -⟩ := Text.cut_eq_some (columnParts?_eq_some.mp h).1
    simp
  unfold readBlock
  rw [hNe, h]
  dsimp only
  cases readNumber "line number".toList before <;> rfl

theorem failsBy_readBlock (block : Text) : FailsBy (Fault.IsOf · block) (readBlock block) := by
  cases hParts : columnParts? block with
  | none =>
    unfold readBlock
    rw [hParts]
    split
    · exact failsBy_error (.inl rfl)
    · exact failsBy_readBlockLines block
  | some parts =>
    obtain ⟨before, after⟩ := parts
    obtain ⟨rfl, -⟩ := Text.cut_eq_some (columnParts?_eq_some.mp hParts).1
    have hBefore := (List.prefix_append before (':' :: after)).isInfix
    rw [readBlock_of_columnParts hParts]
    refine failsBy_bind ((failsBy_readNumber _ _).ofInfix hBefore) fun line _ => ?_
    refine failsBy_mapM fun span hSpan => (failsBy_readColumns line span).ofInfix ?_
    have hSpans := (infix_of_unbrace _).trans (Text.infix_of_trim after)
    have hPiece := Text.infix_of_mem_splitOn hSpan
    exact hPiece.trans (hSpans.trans (Text.infix_behind before ':' after))

/-! ## Bodies -/

theorem readHighlights_eq (body : Text) (mode : Addressing) :
    readHighlights (some ⟨body, mode⟩) =
      ((blocks body).mapM readBlock).map fun items => ⟨items.flatten, mode⟩ := by
  unfold readHighlights
  dsimp only
  cases (blocks body).mapM readBlock <;> rfl

theorem mode_of_readHighlights {source : SelectorSource} {h : Highlights}
    (hRead : readHighlights (some source) = .ok h) : h.mode = source.mode := by
  rw [readHighlights_eq] at hRead
  obtain ⟨items, -, rfl⟩ := map_eq_ok_iff.mp hRead
  rfl

theorem failsBy_readHighlights {body : Text} {mode : Addressing} :
    FailsBy (Fault.IsOf · body) (readHighlights (some ⟨body, mode⟩)) := by
  rw [readHighlights_eq]
  refine failsBy_map (failsBy_mapM fun block hBlock => ?_) _
  exact (failsBy_readBlock block).ofInfix (infix_of_mem_blocks hBlock)

theorem outcome_readEdit (block : Text) : (readEdit block).outcome =
    match editOf? block with
    | some (kind, body) => (readBlock body).map (List.map (Edit.mk · kind))
    | none => (readBlock block).map (List.map (Edit.mk · .hide)) := by
  unfold readEdit
  cases editOf? block with
  | none =>
    simp only [Journal.outcome_bind, Journal.outcome_pure, Journal.outcome_lift,
      Journal.outcome_tell]
    change (readBlock block >>= fun items => .ok (items.map (Edit.mk · .hide))) = _
    cases readBlock block <;> rfl
  | some edit =>
    simp only [Journal.outcome_bind, Journal.outcome_pure, Journal.outcome_lift]
    change (readBlock edit.2 >>= fun items => .ok (items.map (Edit.mk · edit.1))) = _
    cases readBlock edit.2 <;> rfl

theorem failsBy_readEdit (block : Text) :
    FailsBy (Fault.IsOf · block) (readEdit block).outcome := by
  rw [outcome_readEdit]
  cases h : editOf? block with
  | none => exact failsBy_map (failsBy_readBlock block) _
  | some edit =>
    refine failsBy_map ((failsBy_readBlock edit.2).ofInfix ?_) _
    cases block with
    | nil => cases h
    | cons c rest =>
      obtain ⟨kind, -, rfl⟩ := Option.map_eq_some_iff.mp h
      exact (Text.infix_of_trim rest).trans (List.suffix_cons _ _).isInfix

theorem failsBy_readEdits {body : Text} {mode : Addressing} :
    FailsBy (Fault.IsOf · body) (readEdits (some ⟨body, mode⟩)).outcome := by
  unfold readEdits
  rw [Journal.outcome_bind, Journal.outcome_mapM]
  refine failsBy_bind (failsBy_mapM fun block hBlock => ?_) fun _ _ => failsBy_ok _
  exact (failsBy_readEdit block).ofInfix (infix_of_mem_blocks hBlock)

/-! ## Options -/

/-- The digits of an integer stand behind its sign, if it has one. -/
theorem RenderOptions.numeral_of_signedDigits? {t : Text} {negative : Bool} {digits : List Nat}
    (h : signedDigits? t = some (negative, digits)) :
    ∃ numeral, numeral <:+ t ∧ Numeral.digits? numeral = some digits := by
  unfold signedDigits? at h
  split at h
  · rename_i rest
    obtain ⟨_, hDigits, hEq⟩ := Option.map_eq_some_iff.mp h
    cases hEq
    exact ⟨rest, List.suffix_cons _ _, hDigits⟩
  · rename_i rest
    obtain ⟨_, hDigits, hEq⟩ := Option.map_eq_some_iff.mp h
    cases hEq
    exact ⟨rest, List.suffix_cons _ _, hDigits⟩
  · obtain ⟨_, hDigits, hEq⟩ := Option.map_eq_some_iff.mp h
    cases hEq
    exact ⟨t, List.suffix_rfl, hDigits⟩

theorem failsBy_readInteger (key value : Text) :
    FailsBy (Fault.IsOf · value) (RenderOptions.readInteger key value) := by
  unfold RenderOptions.readInteger
  cases h : RenderOptions.signedDigits? value.trim with
  | none => exact failsBy_error (.inl rfl)
  | some signed =>
    obtain ⟨negative, digits⟩ := signed
    obtain ⟨numeral, hNumeral, hDigits⟩ := RenderOptions.numeral_of_signedDigits? h
    refine failsBy_map (failsBy_bind ?_ fun _ _ => failsBy_ok _) _
    exact (failsBy_numberOf_of_digits? hDigits).ofInfix
      (hNumeral.isInfix.trans (Text.infix_of_trim value))

theorem failsBy_readPair (options : RenderOptions) (pair : Text) :
    FailsBy (Fault.IsOf · pair) (options.readPair pair).outcome := by
  unfold RenderOptions.readPair
  split
  · exact failsBy_error (.inl rfl)
  · rename_i key value hCut
    obtain ⟨hPair, -⟩ := Text.cut_eq_some hCut
    dsimp only
    split
    · refine failsBy_map ?_ _
      unfold RenderOptions.readSwitch
      split
      · exact failsBy_error (.inl rfl)
      · exact failsBy_ok _
    · split
      · refine failsBy_map ((failsBy_readInteger _ value).ofInfix ?_) _
        rw [hPair]
        exact Text.infix_behind key '=' value
      · exact failsBy_ok _

theorem RenderOptions.infix_of_mem_pairs {t pair : Text} (h : pair ∈ pairs t) : pair <:+: t := by
  obtain ⟨hMem, -⟩ := List.mem_filter.mp h
  obtain ⟨piece, hPiece, rfl⟩ := List.mem_map.mp hMem
  exact (Text.infix_of_trim piece).trans (Text.infix_of_mem_splitOn hPiece)

theorem failsBy_readOptions (t : Text) :
    FailsBy (Fault.IsOf · t) (RenderOptions.read (some t)).outcome := by
  unfold RenderOptions.read
  rw [Journal.outcome_foldlM]
  refine failsBy_foldlM (fun options pair hPair => ?_) _
  exact (failsBy_readPair options pair).ofInfix (RenderOptions.infix_of_mem_pairs hPair)

/-! ## All suffixes -/

theorem failsBy_readSuffixes {s : Suffixes} {t : Text}
    (h : ∀ p ∈ s.pieces, p.source.body <:+: t) : FailsBy (Fault.IsOf · t) s.read.outcome := by
  obtain ⟨highlight, edit, options⟩ := s
  unfold Suffixes.read
  rw [Journal.outcome_bind]
  refine failsBy_bind ?_ fun _ _ => ?_
  · cases options with
    | none => exact failsBy_ok _
    | some body =>
      exact (failsBy_readOptions body).ofInfix
        (h ⟨.square, ⟨body, .absolute⟩⟩ (by simp [Suffixes.pieces]))
  · rw [Journal.outcome_bind, Journal.outcome_lift]
    refine failsBy_bind ?_ fun _ _ => ?_
    · cases highlight with
      | none => exact failsBy_ok _
      | some source =>
        exact failsBy_readHighlights.ofInfix (h ⟨.brace, source⟩ (by simp [Suffixes.pieces]))
    · rw [Journal.outcome_bind]
      refine failsBy_bind ?_ fun _ _ => failsBy_ok _
      cases edit with
      | none => exact failsBy_ok _
      | some source =>
        exact failsBy_readEdits.ofInfix (h ⟨.angle, source⟩ (by simp [Suffixes.pieces]))

end Excerpt
