import Excerpt.Proofs.Listener
import Excerpt.Proofs.Selector.Commas
import Excerpt.Proofs.Selector.Edits

/-!
# The letters of edits

A body of edits is read piece by piece. A piece is a block with the letter of its kind in front of
it, or a plain block, on which it is remarked that its lines are hidden. The first piece that is
neither ends the reading, after it was remarked on if it has no letter.

* `readEdit_eq_ok_iff`, `notices_readEdit`: one piece, read and remarked on.
* `AddsLetter.readEdit_eq`: what is read if a piece gets the letter that it lacks.
* `readEdits_grammar`: what is read, what is refused, and what is remarked on.
-/

namespace Excerpt

/-! ## Pieces -/

/-- The piece is a block of the grammar, with a letter or without one, and makes the edits. -/
def EditsOf (piece : Text) (edits : List Edit) : Prop :=
  ∃ kind items, EditText Blanks (Text.trim piece) kind items ∧ edits = items.map (Edit.mk · kind)

/-- Whether the piece begins with the letter of a kind. -/
def IsLettered (piece : Text) : Prop :=
  ∃ kind : EditKind, (Text.trim piece).head? = some kind.letter

variable {piece piece' : Text} {pieces pieces' : List Text} {edits : List Edit}

theorem isSome_editOf?_iff : (editOf? (Text.trim piece)).isSome = true ↔ IsLettered piece := by
  unfold IsLettered
  cases Text.trim piece with
  | nil => simp [editOf?]
  | cons c rest =>
    rw [editOf?, Option.isSome_map, Option.isSome_iff_exists, List.head?_cons]
    exact exists_congr fun kind => by rw [ofLetter?_eq_some_iff, Option.some.injEq, eq_comm]

instance : DecidablePred IsLettered := fun _ => decidable_of_iff _ isSome_editOf?_iff

theorem editOf?_of_plain (h : ¬ IsLettered piece) : editOf? (Text.trim piece) = none := by
  rw [← isSome_editOf?_iff] at h
  simpa using h

/-- A piece that begins with a number does not begin with a letter. -/
theorem not_isLettered_of_spells {number : Text} {n : Nat} (h : Spells number n) (rest : Text) :
    ¬ IsLettered (number ++ rest) := by
  rintro ⟨kind, hKind⟩
  obtain ⟨before, numeral, after, digits, hBefore, -, rfl, hDigits, -⟩ := h
  cases numeral with
  | nil => exact (Numeral.digits?_eq_some hDigits).2 rfl
  | cons d numeral =>
    have hDigit : isDigit d = true := Numeral.isDigit_of_digits? hDigits List.mem_cons_self
    rw [List.append_assoc, List.append_assoc, List.cons_append,
      Text.trim_append_cons (Numeral.isBlank_of_isDigit hDigit),
      Text.trimStart_eq_nil_iff.mpr hBefore] at hKind
    obtain rfl : d = kind.letter := Option.some.inj hKind
    rw [(isMark_letter kind).2] at hDigit
    cases hDigit

theorem editOf?_lettered {gap : Text} (hGap : gap.isBlank = true) (kind : EditKind) (t : Text) :
    editOf? (Text.trim (gap ++ kind.letter :: t)) = some (kind, Text.trim t) := by
  rw [Text.trim_append_cons (isMark_letter kind).1, Text.trimStart_eq_nil_iff.mpr hGap,
    List.nil_append, editOf?, ofLetter?_eq_some_iff.mpr rfl, Text.trim_trimEnd]
  rfl

theorem EditKind.isBare_letter (kind : EditKind) : Text.IsBare [kind.letter] := by
  have hBare : kind.letter ≠ ',' ∧
      ∀ bracket : Bracket, kind.letter ≠ bracket.opener ∧ kind.letter ≠ bracket.closer := by
    refine ⟨by cases kind <;> decide, fun bracket => ?_⟩
    cases kind <;> cases bracket <;> decide
  simpa [Text.IsBare] using hBare

/-- What is remarked on pieces: each that has no letter, in order. -/
def remarksOn (pieces : List Text) : List Notice :=
  (pieces.filter fun piece => ¬ IsLettered piece).map fun piece => .editWithoutKind (Text.trim piece)

theorem remarksOn_cons (piece : Text) (pieces : List Text) :
    remarksOn (piece :: pieces) = remarksOn [piece] ++ remarksOn pieces := by
  unfold remarksOn
  rw [← List.map_append, ← List.filter_append, List.singleton_append]

theorem remarksOn_of_plain (h : ¬ IsLettered piece) :
    remarksOn [piece] = [.editWithoutKind (Text.trim piece)] := by
  simp [remarksOn, h]

theorem remarksOn_of_lettered (h : IsLettered piece) : remarksOn [piece] = [] := by
  simp [remarksOn, h]

theorem notices_readEdit (piece : Text) :
    (readEdit (Text.trim piece)).notices = remarksOn [piece] := by
  have hIff : _ ↔ IsLettered piece := isSome_editOf?_iff
  unfold readEdit
  cases hEdit : editOf? (Text.trim piece) with
  | none =>
    have hPlain : ¬ IsLettered piece := by simp [← hIff, hEdit]
    rw [remarksOn_of_plain hPlain]
    simp only [pure_bind]
    cases readBlock (Text.trim piece) <;> rfl
  | some edit =>
    have hLettered : IsLettered piece := by simp [← hIff, hEdit]
    rw [remarksOn_of_lettered hLettered]
    simp only [pure_bind]
    cases readBlock edit.2 <;> rfl

theorem flatMap_notices_readEdit (pieces : List Text) :
    pieces.flatMap (fun piece => (readEdit (Text.trim piece)).notices) = remarksOn pieces := by
  induction pieces with
  | nil => rfl
  | cons piece pieces ih => rw [List.flatMap_cons, notices_readEdit, ih, ← remarksOn_cons]

/-- A piece is read exactly if it is a block of the grammar, and as the edits that this makes. -/
theorem readEdit_eq_ok_iff (hShort : ¬ piece.HasLongRun) :
    (readEdit (Text.trim piece)).outcome = .ok edits ↔ EditsOf piece edits := by
  have hBlock := not_hasLongRun_inside hShort (Text.infix_of_trim piece)
  constructor
  · intro hRead
    rw [outcome_readEdit] at hRead
    cases hEdit : editOf? (Text.trim piece) with
    | none =>
      rw [hEdit] at hRead
      obtain ⟨items, hItems, rfl⟩ := map_eq_ok_iff.mp hRead
      exact ⟨.hide, items, .plain ((readBlock_eq_ok_iff hBlock).mp hItems), rfl⟩
    | some edit =>
      rw [hEdit] at hRead
      obtain ⟨items, hItems, rfl⟩ := map_eq_ok_iff.mp hRead
      have hText := (readBlock_eq_ok_iff (not_hasLongRun_of_readBlock hItems)).mp hItems
      refine ⟨edit.1, items, ?_, rfl⟩
      cases hTrim : Text.trim piece with
      | nil => simp [hTrim, editOf?] at hEdit
      | cons c rest =>
        rw [hTrim] at hEdit
        obtain ⟨kind, hLetter, rfl⟩ := Option.map_eq_some_iff.mp hEdit
        obtain rfl := ofLetter?_eq_some_iff.mp hLetter
        exact .lettered (hText.of_trim_eq (Text.trim_trim rest))
  · rintro ⟨kind, items, hText, rfl⟩
    exact readEdit_of_editText hBlock hText

/-! ## Adding letters -/

/-- The piece is the other one, with the letter of hidden lines in front of its block if it has
none. -/
inductive AddsLetter : Text → Text → Prop
  | kept {piece : Text} (hLettered : IsLettered piece) : AddsLetter piece piece
  | added {gap rest : Text} (hPlain : ¬ IsLettered (gap ++ rest)) (hGap : gap.isBlank = true) :
      AddsLetter (gap ++ rest) (gap ++ EditKind.hide.letter :: rest)

namespace AddsLetter

theorem differInFront (h : AddsLetter piece piece') : piece.DifferInFront piece' := by
  have hNil := Text.isBare_nil
  cases h with
  | kept _ => exact ⟨[], [], piece, hNil, hNil, rfl, rfl⟩
  | @added gap rest _ hGap =>
    have hLetter : Text.DifferInFront rest (EditKind.hide.letter :: rest) :=
      ⟨[], [EditKind.hide.letter], rest, hNil, EditKind.hide.isBare_letter, rfl, rfl⟩
    exact hLetter.behind (Text.isBare_of_isBlank hGap)

theorem isBlank_eq_false (h : AddsLetter piece piece') : piece'.isBlank = false := by
  cases h with
  | kept hLettered =>
    obtain ⟨kind, hKind⟩ := hLettered
    cases hBlank : Text.isBlank piece with
    | false => rfl
    | true =>
      rw [Text.trim_eq_nil_iff.mpr hBlank] at hKind
      cases hKind
  | added _ _ => simp [Text.isBlank, isBlank, EditKind.letter]

/-- The piece with the letter is read as the one without it, and nothing is remarked on it. -/
theorem readEdit_eq (h : AddsLetter piece piece') : readEdit (Text.trim piece') =
    Journal.lift (readEdit (Text.trim piece)).outcome := by
  have hOutcome : (readEdit (Text.trim piece')).outcome = (readEdit (Text.trim piece)).outcome := by
    cases h with
    | kept _ => rfl
    | @added gap rest hPlain hGap =>
      have hInside : Text.trim rest = Text.trim (gap ++ rest) := by
        simpa using (Text.trim_between hGap Text.isBlank_nil rest).symm
      rw [outcome_readEdit, outcome_readEdit, editOf?_lettered hGap, editOf?_of_plain hPlain,
        hInside]
  have hLettered : IsLettered piece' := by
    cases h with
    | kept hLettered => exact hLettered
    | @added gap rest hPlain hGap =>
      rw [← isSome_editOf?_iff, editOf?_lettered hGap]
      rfl
  have hSilent : (readEdit (Text.trim piece')).notices = [] := by
    rw [notices_readEdit, remarksOn_of_lettered hLettered]
  rw [← hOutcome, Journal.lift, ← hSilent]

end AddsLetter

/-! ## Bodies -/

variable {body : Text}

theorem readEdits_eq (hPieces : BodyPieces body pieces) (mode : Addressing) :
    readEdits (some ⟨body, mode⟩) = (fun parts => ⟨parts.flatten, mode⟩) <$>
      pieces.mapM fun piece => readEdit (Text.trim piece) := by
  rw [readEdits, hPieces.blocks_eq, List.mapM_map, map_eq_pure_bind]
  rfl

theorem readEdits_addsLetter (hPieces : BodyPieces body pieces)
    (hLetters : List.Forall₂ AddsLetter pieces pieces') (mode : Addressing) :
    readEdits (some ⟨Text.join [','] pieces', mode⟩) =
      Journal.lift (readEdits (some ⟨body, mode⟩)).outcome := by
  have hDiffer := hLetters.imp fun _ _ h => h.differInFront
  have hBlank : ∀ piece' ∈ pieces', Text.isBlank piece' = false := by
    intro piece' hMem
    obtain ⟨piece, -, hLetter⟩ := exists_of_forall₂ hLetters.flip hMem
    exact hLetter.isBlank_eq_false
  have hRead := Journal.mapM_eq_lift (hLetters.imp fun _ _ h => h.readEdit_eq)
  rw [readEdits_eq (hPieces.rewritten hDiffer hBlank), readEdits_eq hPieces, hRead,
    Journal.map_eq, Journal.map_eq]
  rfl

/-- A body is read exactly if all of its pieces are blocks of the grammar, with or without a letter,
and as their edits in order; what has no letter is hidden, and remarked on. Any other body is refused
as one that cannot be parsed, with remarks up to the first bad piece and on it. If the letters that
lack are added, nothing is remarked, and all else is the same. -/
theorem readEdits_grammar {body : Text} (hShort : ¬ body.HasLongRun) (mode : Addressing) :
    ∃ pieces, (∀ others, BodyPieces body others ↔ others = pieces) ∧
      (∀ e, (readEdits (some ⟨body, mode⟩)).outcome = .ok e ↔
        ∃ parts, List.Forall₂ EditsOf pieces parts ∧ e = ⟨parts.flatten, mode⟩) ∧
      ((∀ piece ∈ pieces, ∃ edits, EditsOf piece edits) →
        (readEdits (some ⟨body, mode⟩)).notices = remarksOn pieces) ∧
      (∀ before bad behind, pieces = before ++ bad :: behind →
        (∀ piece ∈ before, ∃ edits, EditsOf piece edits) → (¬ ∃ edits, EditsOf bad edits) →
        ∃ fault, readEdits (some ⟨body, mode⟩) = ⟨remarksOn (before ++ [bad]), .error fault⟩ ∧
          fault.kind = .parse) ∧
      ∀ pieces', List.Forall₂ AddsLetter pieces pieces' →
        readEdits (some ⟨Text.join [','] pieces', mode⟩) =
          Journal.lift (readEdits (some ⟨body, mode⟩)).outcome := by
  obtain ⟨pieces, hPieces, hUnique⟩ := existsUnique_bodyPieces body
  have hRead : ∀ piece ∈ pieces, ∀ edits,
      (readEdit (Text.trim piece)).outcome = .ok edits ↔ EditsOf piece edits := by
    intro piece hPiece edits
    exact readEdit_eq_ok_iff (not_hasLongRun_inside hShort (hPieces.infix_of_mem hPiece))
  have hEq := readEdits_eq hPieces mode
  rw [Journal.map_eq] at hEq
  refine ⟨pieces, ?_, ?_, ?_, ?_, ?_⟩
  · intro others
    exact ⟨hUnique others, fun hOthers => hOthers ▸ hPieces⟩
  · intro e
    rw [hEq, map_eq_ok_iff]
    simp only [Journal.outcome_mapM, mapM_eq_ok_iff_of_mem hRead, eq_comm]
  · intro hAll
    have hOk : ∃ parts,
        (pieces.mapM fun piece => readEdit (Text.trim piece)).outcome = .ok parts := by
      rw [Journal.outcome_mapM]
      exact mapM_ok fun piece hPiece => (hAll piece hPiece).imp fun _ => (hRead piece hPiece _).mpr
    obtain ⟨parts, hParts⟩ := hOk
    rw [hEq, Journal.notices_mapM hParts, flatMap_notices_readEdit]
  · rintro before bad behind rfl hBefore hBad
    have hGood : ∀ piece ∈ before, ∃ edits, (readEdit (Text.trim piece)).outcome = .ok edits := by
      intro piece hPiece
      obtain ⟨edits, hEdits⟩ := hBefore piece hPiece
      exact ⟨edits, (hRead piece (List.mem_append_left _ hPiece) edits).mpr hEdits⟩
    obtain ⟨fault, hFault⟩ : ∃ fault, (readEdit (Text.trim bad)).outcome = .error fault := by
      cases hOutcome : (readEdit (Text.trim bad)).outcome with
      | error fault => exact ⟨fault, rfl⟩
      | ok edits => exact absurd ⟨edits, (hRead bad (by simp) edits).mp hOutcome⟩ hBad
    obtain ⟨hNotices, hOutcome⟩ := Journal.notices_mapM_of_error hGood hFault
    rw [hNotices, hOutcome, flatMap_notices_readEdit] at hEq
    refine ⟨fault, hEq, ?_⟩
    -- without a long run of digits, only the grammar is left to refuse a body
    rcases failsBy_readEdits fault (congrArg Journal.outcome hEq) with hParse | ⟨-, hLong⟩
    · exact hParse
    · exact absurd hLong hShort
  · intro pieces' hLetters
    exact readEdits_addsLetter hPieces hLetters mode

theorem readEdits_grammar_mixed :
    ¬ Text.HasLongRun "d1, 2-3 ,x".toList ∧
    readEdits (some ⟨"d1, h2-3 ,hx".toList, .relative⟩) =
      Journal.lift (readEdits (some ⟨"d1, 2-3 ,x".toList, .relative⟩)).outcome ∧
    ∃ fault, readEdits (some ⟨"d1, 2-3 ,x".toList, .relative⟩) =
      ⟨[.editWithoutKind "2-3".toList, .editWithoutKind "x".toList], .error fault⟩ ∧
      fault.kind = .parse := by
  have hShort : ¬ Text.HasLongRun "d1, 2-3 ,x".toList := not_hasLongRun_of_length (by decide)
  obtain ⟨pieces, hPieces, -, -, hRejected, hLetters⟩ := readEdits_grammar hShort .relative
  obtain rfl : ["d1".toList, " 2-3 ".toList, "x".toList] = pieces :=
    (hPieces _).mp (.outer rfl (outerPieces_iff.mpr rfl))
  have hReads (piece : Text) (hLength : piece.length ≤ 5) (edits : List Edit) :
      (readEdit (Text.trim piece)).outcome = .ok edits ↔ EditsOf piece edits :=
    readEdit_eq_ok_iff (not_hasLongRun_of_length (hLength.trans (by decide)))
  refine ⟨hShort, ?_, hRejected ["d1".toList, " 2-3 ".toList] "x".toList [] rfl ?_ ?_⟩
  · have hPlain : ¬ IsLettered ([' '] ++ "2-3 ".toList) ∧ ¬ IsLettered ([] ++ ['x']) := by decide
    exact hLetters ["d1".toList, " h2-3 ".toList, "hx".toList]
      (.cons (.kept ⟨.ellipsis, rfl⟩) (.cons (.added hPlain.1 rfl)
        (.cons (.added hPlain.2 rfl) .nil)))
  · intro piece hPiece
    rcases List.mem_pair.mp hPiece with rfl | rfl
    · exact ⟨_, (hReads _ (by decide) [⟨.line ⟨1, by decide⟩, .ellipsis⟩]).mp (by decide +kernel)⟩
    · exact ⟨_, (hReads _ (by decide) [⟨.range ⟨2, 3, by decide, by decide⟩, .hide⟩]).mp
        (by decide +kernel)⟩
  · rintro ⟨edits, hEdits⟩
    have hRead := (hReads _ (by decide) edits).mpr hEdits
    have hError : (readEdit (Text.trim "x".toList)).outcome.isOk = false := by decide +kernel
    rw [hRead] at hError
    cases hError

end Excerpt
