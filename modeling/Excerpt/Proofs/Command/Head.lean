import Excerpt.Command
import Excerpt.Proofs.Text.Pieces

/-!
# The lines whose head can be read

A head is the keyword, the target in parentheses with a colon in it, and the suffixes on the same
line. Returns and line feeds at the end of a line do not belong to it.

* `CommandHead.parts?_eq_some_iff`, `CommandHead.shape?_eq_some_iff`: the target and the suffixes.
* `CommandHead.read_eq_ok_iff`: the lines with a given head.
* `CommandHead.chomp_append`: what is not a return or a line feed keeps what stands before it.
-/

namespace Excerpt

/-! ## The keyword -/

namespace CommandKind

theorem ofLine?_eq_some_iff {line : Text} {kind : CommandKind} :
    ofLine? line = some kind ↔ kind.keyword <+: line := by
  -- neither keyword is the beginning of the other, for they differ in their first letter
  have hApart : ¬ (marker.keyword <+: line ∧ direct.keyword <+: line) := by
    rintro ⟨hMarker, hDirect⟩
    cases line with
    | nil => simp [keyword] at hMarker
    | cons c rest =>
      obtain ⟨h, -⟩ := List.cons_prefix_cons.mp hMarker
      obtain ⟨h', -⟩ := List.cons_prefix_cons.mp hDirect
      rw [← h] at h'
      exact absurd h' (by decide)
  unfold ofLine?
  rw [← List.isPrefixOf_iff_prefix] at hApart ⊢
  rw [← List.isPrefixOf_iff_prefix] at hApart
  cases kind with
  | marker =>
    by_cases h : marker.keyword.isPrefixOf line = true
    · simp [h]
    · simp [h]
  | direct =>
    by_cases h : marker.keyword.isPrefixOf line = true
    · have hDirect : ¬ direct.keyword.isPrefixOf line = true := fun h' => hApart ⟨h, h'⟩
      simp [h, hDirect]
    · simp [h]

end CommandKind

theorem isCommandLine_iff {line : Text} :
    isCommandLine line = true ↔ ∃ kind : CommandKind, kind.keyword <+: line := by
  unfold isCommandLine
  rw [Option.isSome_iff_exists]
  exact exists_congr fun kind => CommandKind.ofLine?_eq_some_iff

namespace CommandHead

/-! ## The end of a line -/

theorem chomp_append {t : Text} (h : ∀ c ∈ t.getLast?, c ≠ '\r' ∧ c ≠ '\n') (u : Text) :
    chomp (t ++ u) = t ++ chomp u := by
  unfold chomp Text.dropEndWhile
  rw [List.reverse_append, List.dropWhile_append]
  split
  · rename_i hEmpty
    rw [List.isEmpty_iff.mp hEmpty, List.reverse_nil, List.append_nil]
    cases hRev : t.reverse with
    | nil => simpa using hRev
    | cons c rest =>
      have hLast : t.getLast? = some c := by
        rw [← List.head?_reverse, hRev]
        rfl
      obtain ⟨hReturn, hFeed⟩ := h c hLast
      rw [List.dropWhile_cons_of_neg (by simp [hReturn, hFeed]), ← hRev, List.reverse_reverse]
  · simp

theorem chomp_prefix (t : Text) : chomp t <+: t := List.rdropWhile_prefix _ _

/-! ## The target -/

/-- Whether the character may stand in a target. -/
def InTarget (c : Char) : Prop := c ≠ '(' ∧ c ≠ ')'

theorem parts?_eq_some_iff {t target suffixes : Text} :
    parts? t = some (target, suffixes) ↔ t = '(' :: (target ++ ')' :: suffixes) ∧
      (∀ c ∈ target, InTarget c) ∧ '\n' ∉ suffixes := by
  constructor
  · intro h
    unfold parts? at h
    split at h
    · rename_i rest
      split at h
      · rename_i behind hDrop
        split at h
        · cases h
        · rename_i hFeed
          cases h
          refine ⟨?_, ?_, by simpa using hFeed⟩
          · rw [← hDrop, List.takeWhile_append_dropWhile]
          · intro c hc
            have hAll := List.all_eq_true.mp List.all_takeWhile c hc
            simpa [InTarget] using hAll
      · cases h
    · cases h
  · rintro ⟨rfl, hTarget, hFeed⟩
    have hAll : ∀ c ∈ target, (c != '(' && c != ')') = true := by
      intro c hc
      obtain ⟨hOpen, hClose⟩ := hTarget c hc
      simp [hOpen, hClose]
    have hClose : (')' != '(' && ')' != ')') = false := by decide
    simp [parts?, Text.dropWhile_until hAll hClose, Text.takeWhile_until hAll hClose, hFeed]

theorem shape?_eq_some_iff {t target suffixes : Text} {kind : CommandKind} :
    shape? t = some (kind, target, suffixes) ↔
      t = kind.keyword ++ '(' :: (target ++ ')' :: suffixes) ∧
      (∀ c ∈ target, InTarget c) ∧ '\n' ∉ suffixes := by
  unfold shape?
  rw [Option.bind_eq_some_iff]
  constructor
  · rintro ⟨kind', hKind, hParts⟩
    obtain ⟨⟨target', suffixes'⟩, hBehind, hEq⟩ := Option.map_eq_some_iff.mp hParts
    cases hEq
    obtain ⟨rest, rfl⟩ := CommandKind.ofLine?_eq_some_iff.mp hKind
    rw [List.drop_left, parts?_eq_some_iff] at hBehind
    obtain ⟨rfl, hTarget, hFeed⟩ := hBehind
    exact ⟨rfl, hTarget, hFeed⟩
  · rintro ⟨rfl, hTarget, hFeed⟩
    refine ⟨kind, CommandKind.ofLine?_eq_some_iff.mpr (List.prefix_append _ _), ?_⟩
    rw [List.drop_left, parts?_eq_some_iff.mpr ⟨rfl, hTarget, hFeed⟩]
    rfl

/-! ## The head -/

theorem read_eq_ok_iff {line : Text} {head : CommandHead} :
    read line = .ok head ↔ ∃ name address,
      chomp line = head.kind.keyword ++ '(' :: (name ++ ':' :: address ++ ')' :: head.suffixes) ∧
      (∀ c ∈ name ++ ':' :: address, InTarget c) ∧ '\n' ∉ head.suffixes ∧ ':' ∉ address ∧
      Text.trim name ≠ [] ∧ head.filename = Text.trim name ∧
      head.address = Text.trim address := by
  constructor
  · intro h
    unfold read at h
    split at h
    · cases h
    · rename_i kind target suffixes hShape
      obtain ⟨hLine, hTarget, hFeed⟩ := shape?_eq_some_iff.mp hShape
      split at h
      · cases h
      · rename_i name address hCut
        obtain ⟨rfl, hColon⟩ := Text.cutLast_eq_some_iff.mp hCut
        split at h
        · cases h
        · rename_i hName
          cases h
          exact ⟨name, address, hLine, hTarget, hFeed, hColon, by simpa using hName, rfl, rfl⟩
  · obtain ⟨kind, filename, address', suffixes⟩ := head
    rintro ⟨name, address, hLine, hTarget, hFeed, hColon, hName, rfl, rfl⟩
    have hShape := shape?_eq_some_iff.mpr ⟨hLine, hTarget, hFeed⟩
    have hCut : Text.cutLast ':' (name ++ ':' :: address) = some (name, address) :=
      Text.cutLast_eq_some_iff.mpr ⟨rfl, hColon⟩
    unfold read
    simp only [hShape, hCut, List.isEmpty_iff, if_neg hName]

/-- The address and the suffixes are parts of the line. -/
theorem infix_of_read {line : Text} {head : CommandHead} (h : read line = .ok head) :
    head.address <:+: line ∧ head.suffixes <:+: line := by
  obtain ⟨name, address, hLine, -, -, -, -, -, hAddress⟩ := read_eq_ok_iff.mp h
  have hStart := chomp_prefix line
  rw [hLine] at hStart
  have hChomp := hStart.isInfix
  constructor
  · rw [hAddress]
    refine (Text.infix_of_trim address).trans (List.IsInfix.trans ?_ hChomp)
    exact ⟨head.kind.keyword ++ '(' :: (name ++ [':']), ')' :: head.suffixes, by simp⟩
  · refine List.IsInfix.trans ?_ hChomp
    exact ⟨head.kind.keyword ++ '(' :: (name ++ ':' :: address ++ [')']), [], by simp⟩

end CommandHead

theorem CommandKind.ofLine?_of_read {line : Text} {head : CommandHead}
    (h : CommandHead.read line = .ok head) : ofLine? line = some head.kind := by
  have hChomp := CommandHead.chomp_prefix line
  have hKind := Command.kind_of_read h
  rw [ofLine?_eq_some_iff] at hKind ⊢
  exact hKind.trans hChomp

end Excerpt
