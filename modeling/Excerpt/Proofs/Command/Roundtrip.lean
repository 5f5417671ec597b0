import Excerpt.Insertion
import Excerpt.Proofs.Command.Phases

/-!
# Commands that are written and read back

Every command that can be read is written in one plain way, its lines as a range and its suffixes
in their brackets, and it is read back from that, whatever the order of the suffixes is and whatever
blanks stand between them.

* `Command.isWritable_of_parse`: what a command is that was read.
* `Command.parse_text`: such a command is read back from its text.
* `Command.parse_roundtrip`: both, and what else is read from a command line.
-/

namespace Excerpt

/-! ## The text of a command -/

namespace Address

/-- The address as it is written. -/
def text : Address → Text
  | .lines range => Numeral.ofNat range.first ++ '-' :: Numeral.ofNat range.last
  | .block id => id

/-- Whether an address can be written behind a colon. -/
def IsWritable : Address → Prop
  | .lines range => range.last < numberBound
  | .block id => id ≠ [] ∧ Text.trim id = id ∧ ∀ c ∈ id, CommandHead.InTarget c ∧ c ≠ ':'

theorem mem_text {a : Address} (h : a.IsWritable) {c : Char} (hc : c ∈ a.text) :
    CommandHead.InTarget c ∧ c ≠ ':' := by
  cases a with
  | block id => exact h.2.2 c hc
  | lines range =>
    have hDigit (n : Nat) (hn : c ∈ Numeral.ofNat n) : CommandHead.InTarget c ∧ c ≠ ':' := by
      refine ⟨⟨?_, ?_⟩, ?_⟩
      · exact fun hEq => Numeral.not_mem_ofNat (by decide) (hEq ▸ hn)
      · exact fun hEq => Numeral.not_mem_ofNat (by decide) (hEq ▸ hn)
      · exact fun hEq => Numeral.not_mem_ofNat (by decide) (hEq ▸ hn)
    rcases List.mem_append.mp hc with hc | hc
    · exact hDigit _ hc
    · rcases List.mem_cons.mp hc with rfl | hc
      · exact ⟨⟨by decide, by decide⟩, by decide⟩
      · exact hDigit _ hc

theorem trim_text {a : Address} (h : a.IsWritable) : Text.trim a.text = a.text := by
  cases a with
  | block id => exact h.2.1
  | lines range =>
    refine Text.trim_eq_self fun c hc => ?_
    rcases List.mem_append.mp hc with hc | hc
    · exact Numeral.isBlank_of_mem_ofNat hc
    · rcases List.mem_cons.mp hc with rfl | hc
      · decide
      · exact Numeral.isBlank_of_mem_ofNat hc

end Address

namespace Command

/-- The command as it is written, without its suffixes. -/
def text (c : Command) : Text :=
  c.kind.keyword ++ '(' :: (c.filename ++ ':' :: c.address.text ++ [')'])

/-- What a command has to be so that it can be written. -/
structure IsWritable (c : Command) : Prop where
  nameTrimmed : Text.trim c.filename = c.filename
  nameNotEmpty : c.filename ≠ []
  nameInTarget : ∀ x ∈ c.filename, CommandHead.InTarget x
  address : c.address.IsWritable
  suffixes : ∀ p ∈ c.suffixes.pieces, p.IsWritable

theorem readLines_text {range : LineRange} (h : range.last < numberBound) :
    readLines (Address.lines range).text = .ok range := by
  have hFirst : range.first < numberBound := range.first_le_last.trans_lt h
  have hDash : List.contains (Address.lines range).text '-' = true := by
    simp [Address.text]
  have hRange : LineRange.of range.first range.last = .ok range :=
    LineRange.of_eq_ok_iff.mpr ⟨rfl, rfl⟩
  unfold readLines
  rw [if_pos hDash, Address.text, readSpan_ofNat hFirst h]
  exact hRange

theorem readAddress_text {c : Command} (h : c.address.IsWritable) (line name tail : Text) :
    readAddress line ⟨c.kind, name, c.address.text, tail⟩ = .ok c.address := by
  obtain ⟨filename, address, suffixes⟩ := c
  cases address with
  | lines range =>
    have hLines := readLines_text h
    simp only [kind, readAddress, hLines]
    rfl
  | block id => simp [kind, readAddress, Address.text, h.1]

/-! ## Reading back -/

/-- Whether a text may stand between suffixes: blanks, but no line feed. -/
def IsGap (t : Text) : Prop := t.isBlank = true ∧ '\n' ∉ t

instance (t : Text) : Decidable (IsGap t) := inferInstanceAs (Decidable (_ ∧ _))

/-- A command that can be written is read back. -/
theorem parse_text {c : Command} (h : c.IsWritable) {placed : List (Text × Suffixes.Piece)}
    (hPerm : (placed.map Prod.snd).Perm c.suffixes.pieces) (hGap : ∀ x ∈ placed, IsGap x.1)
    {trailing : Text} (hTrailing : IsGap trailing) :
    parse (c.text ++ (Suffixes.textOf placed ++ trailing)) = .ok c := by
  have hEnd := CommandHead.chomp_prefix trailing
  have hBlank : (CommandHead.chomp trailing).isBlank = true :=
    Text.isBlank_iff.mpr fun x hx => Text.isBlank_iff.mp hTrailing.1 x (hEnd.mem hx)
  have hChomp : CommandHead.chomp (c.text ++ (Suffixes.textOf placed ++ trailing)) =
      c.text ++ (Suffixes.textOf placed ++ CommandHead.chomp trailing) := by
    rw [CommandHead.chomp_append, CommandHead.chomp_append]
    · exact fun x hx => Suffixes.getLast?_textOf hx
    · intro x hx
      have hText : c.text =
          c.kind.keyword ++ '(' :: (c.filename ++ ':' :: c.address.text) ++ [')'] := by
        simp [text]
      rw [hText, List.getLast?_concat] at hx
      cases hx
      decide
  have hPiece : ∀ x ∈ placed, x.2.IsWritable :=
    fun x hx => h.suffixes x.2 (hPerm.mem_iff.mp (List.mem_map_of_mem hx))
  have hLine : '\n' ∉ Suffixes.textOf placed ++ CommandHead.chomp trailing := by
    rw [List.mem_append, not_or]
    exact ⟨Suffixes.not_mem_textOf (fun x hx => (hGap x hx).2) hPiece,
      fun hFeed => hTrailing.2 (hEnd.mem hFeed)⟩
  have hHead : CommandHead.read (c.text ++ (Suffixes.textOf placed ++ trailing)) =
      .ok ⟨c.kind, c.filename, c.address.text,
        Suffixes.textOf placed ++ CommandHead.chomp trailing⟩ := by
    refine CommandHead.read_eq_ok_iff.mpr ⟨c.filename, c.address.text, ?_, ?_, hLine, ?_, ?_,
      h.nameTrimmed.symm, (Address.trim_text h.address).symm⟩
    · rw [hChomp]
      simp [text]
    · intro x hx
      rcases List.mem_append.mp hx with hx | hx
      · exact h.nameInTarget x hx
      · rcases List.mem_cons.mp hx with rfl | hx
        · exact ⟨by decide, by decide⟩
        · exact (Address.mem_text h.address hx).1
    · exact fun hColon => (Address.mem_text h.address hColon).2 rfl
    · rw [h.nameTrimmed]
      exact h.nameNotEmpty
  have hSplit := Suffixes.split_textOf hPerm h.suffixes (fun x hx => (hGap x hx).1) hBlank
  rw [parse_eq, hHead]
  change (Suffixes.split (Suffixes.textOf placed ++ CommandHead.chomp trailing) >>= fun s => _) = _
  rw [hSplit]
  change (readAddress _ _).map _ = _
  rw [readAddress_text h.address]
  rfl

/-! ## What can be read -/

theorem isWritable_of_parse {line : Text} {c : Command} (h : parse line = .ok c) :
    c.IsWritable := by
  obtain ⟨head, hHead, -, -⟩ := read_of_parse h
  obtain ⟨hName, hSplit, hAddress⟩ := parts_of_parse hHead h
  obtain ⟨name, address, -, hTarget, hLine, hColon, hNotEmpty, hFilename, hEq⟩ :=
    CommandHead.read_eq_ok_iff.mp hHead
  have hTrimmed : c.filename = Text.trim name := hName.trans hFilename
  refine ⟨?_, ?_, ?_, ?_, Suffixes.isWritable_of_split hSplit hLine⟩
  · rw [hTrimmed, Text.trim_trim]
  · rw [hTrimmed]
    exact hNotEmpty
  · intro x hx
    rw [hTrimmed] at hx
    exact hTarget x (List.mem_append_left _ ((Text.infix_of_trim name).mem hx))
  · unfold readAddress at hAddress
    split at hAddress
    · obtain ⟨range, hLines, hRange⟩ := map_eq_ok_iff.mp hAddress
      rw [← hRange]
      exact lt_of_readLines hLines
    · split at hAddress
      · cases hAddress
      · rename_i hId
        rw [← Except.ok.inj hAddress]
        have hTrim : head.address = Text.trim address := hEq
        refine ⟨by simpa using hId, ?_, fun x hx => ?_⟩
        · rw [hTrim, Text.trim_trim]
        · rw [hTrim] at hx
          have hMem := (Text.infix_of_trim address).mem hx
          refine ⟨hTarget x (List.mem_append_right _ (List.mem_cons_of_mem _ hMem)), ?_⟩
          rintro rfl
          exact hColon hMem

/-- A command that was read is read back from its text, with its suffixes in any order and any
blanks between them; and its kind, its file and the file it depends on are those that are read from
the line alone. -/
theorem parse_roundtrip {line : Text} {c : Command} (h : parse line = .ok c) :
    (∀ (placed : List (Text × Suffixes.Piece)) (trailing : Text),
      (placed.map Prod.snd).Perm c.suffixes.pieces → (∀ x ∈ placed, IsGap x.1) →
      IsGap trailing → parse (c.text ++ (Suffixes.textOf placed ++ trailing)) = .ok c) ∧
    CommandKind.ofLine? line = some c.kind ∧ targetName line = .ok c.filename ∧
    ∀ root, dependency? root line = .ok (some (c.sourcePath root)) := by
  have hKind := CommandKind.ofLine?_of_parse h
  have hLine : isCommandLine line = true := by
    unfold isCommandLine
    rw [hKind]
    rfl
  refine ⟨fun placed trailing hPerm hGap hTrailing => ?_, hKind, targetName_of_parse h,
    fun root => dependency?_of_parse hLine h⟩
  exact parse_text (isWritable_of_parse h) hPerm hGap hTrailing

/-- A command for a file with a colon in its name, and with two of three suffixes. -/
def colonCommand : Command :=
  ⟨['a', ':', 'b'], .lines ⟨2, 2, by decide, by decide⟩,
    { highlight := some ⟨['1'], .absolute⟩, edit := some ⟨['d', '2'], .relative⟩ }⟩

/-- Its suffixes may stand the other way round. -/
theorem parse_roundtrip_colonCommand :
    parse (colonCommand.text ++ (Suffixes.textOf
      [([' '], ⟨.angle, ⟨['d', '2'], .relative⟩⟩), (['\t', ' '], ⟨.brace, ⟨['1'], .absolute⟩⟩)] ++
        [])) = .ok colonCommand ∧
    targetName "insert_code(a:b:2)\x7b1\x7dr<d2>".toList = .ok ['a', ':', 'b'] := by
  have hParse : parse "insert_code(a:b:2)\x7b1\x7dr<d2>".toList = .ok colonCommand := by
    decide +kernel
  obtain ⟨hRound, -, hName, -⟩ := parse_roundtrip hParse
  exact ⟨hRound _ _ (List.Perm.swap _ _ _) (by decide) (by decide), hName⟩

end Command

end Excerpt
