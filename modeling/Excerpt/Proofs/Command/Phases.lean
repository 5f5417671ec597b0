import Excerpt.Proofs.Command.Head
import Excerpt.Proofs.Command.Suffixes

/-!
# The phases of reading a command

First the head is read, then the suffixes are taken apart, then the address is read. Each phase has
no faults but those of how the line is written, so what a malformed command ends with is never that
something was not found.

* `Command.parse_eq`: the phases in order.
* `CommandKind.ofLine?_of_parse`: a command line begins with its command.
* `Command.failsBy_parse`: the faults of a command line.
-/

namespace Excerpt

theorem CommandKind.ofLine?_of_parse {line : Text} {c : Command} (h : Command.parse line = .ok c) :
    ofLine? line = some c.kind := by
  obtain ⟨head, hHead, -, hKind⟩ := Command.read_of_parse h
  rw [hKind]
  exact ofLine?_of_read hHead

/-! ## Faults -/

theorem CommandHead.failsBy_read (line : Text) : FailsBy (·.kind = .parse) (read line) := by
  unfold read
  split
  · exact failsBy_error rfl
  · split
    · exact failsBy_error rfl
    · split
      · exact failsBy_error rfl
      · exact failsBy_ok _

namespace Command

theorem failsBy_readLines (address : Text) :
    FailsBy (Fault.IsOf · address) (readLines address) := by
  unfold readLines
  split
  · cases h : readSpan "line range".toList address with
    | error fault => exact failsBy_error (failsBy_readSpan _ _ fault h)
    | ok ends =>
      obtain ⟨hFirst, hLast⟩ := lt_of_readSpan h
      exact failsBy_lineRange hFirst hLast address
  · cases h : readNumber "line number".toList address with
    | error fault => exact failsBy_error (failsBy_readNumber _ _ fault h)
    | ok line =>
      have hLine := lt_of_readNumber h
      exact failsBy_lineRange hLine hLine address

theorem failsBy_readAddress (line : Text) (head : CommandHead) :
    FailsBy (Fault.IsOf · head.address) (readAddress line head) := by
  unfold readAddress
  split
  · exact failsBy_map (failsBy_readLines _) _
  · split
    · exact failsBy_error (.inl rfl)
    · exact failsBy_ok _

theorem parse_eq (line : Text) :
    parse line = CommandHead.read line >>= fun head => Suffixes.split head.suffixes >>= fun s =>
      (readAddress line head).map fun address => ⟨head.filename, address, s⟩ := by
  unfold parse
  cases CommandHead.read line with
  | error fault => rfl
  | ok head =>
    dsimp only [bind, Except.bind]
    cases Suffixes.split head.suffixes <;> rfl

/-- What a command is made of. -/
theorem parts_of_parse {line : Text} {head : CommandHead} {c : Command}
    (hHead : CommandHead.read line = .ok head) (h : parse line = .ok c) :
    c.filename = head.filename ∧ Suffixes.split head.suffixes = .ok c.suffixes ∧
      readAddress line head = .ok c.address := by
  rw [parse_eq, hHead] at h
  obtain ⟨_, ⟨⟩, h⟩ := bind_eq_ok_iff.mp h
  obtain ⟨s, hSplit, h⟩ := bind_eq_ok_iff.mp h
  obtain ⟨address, hAddress, rfl⟩ := map_eq_ok_iff.mp h
  exact ⟨rfl, hSplit, hAddress⟩

theorem parse_of_readLines {line name address tail : Text} {r : LineRange}
    (hHead : CommandHead.read line = .ok ⟨.direct, name, address, tail⟩)
    (hLines : readLines address = .ok r) :
    parse line = (Suffixes.split tail).map fun s => ⟨name, .lines r, s⟩ := by
  unfold parse readAddress
  simp only [hHead, hLines]
  cases Suffixes.split tail <;> rfl

theorem lt_of_readLines {address : Text} {r : LineRange} (h : readLines address = .ok r) :
    r.last < numberBound := by
  unfold readLines at h
  split at h
  · cases hSpan : readSpan "line range".toList address with
    | error fault =>
      rw [hSpan] at h
      cases h
    | ok ends =>
      obtain ⟨-, hLast⟩ := lt_of_readSpan hSpan
      rw [hSpan] at h
      obtain ⟨-, hEq⟩ := LineRange.of_eq_ok_iff.mp h
      omega
  · cases hNumber : readNumber "line number".toList address with
    | error fault =>
      rw [hNumber] at h
      cases h
    | ok n =>
      have hLine := lt_of_readNumber hNumber
      rw [hNumber] at h
      obtain ⟨-, hEq⟩ := LineRange.of_eq_ok_iff.mp h
      omega

theorem failsBy_parse (line : Text) : FailsBy (Fault.IsOf · line) (parse line) := by
  rw [parse_eq]
  refine failsBy_bind ((CommandHead.failsBy_read line).mono fun _ => .inl) fun head hHead => ?_
  refine failsBy_bind ((Suffixes.failsBy_split head.suffixes).mono fun _ => .inl) fun s _ => ?_
  exact failsBy_map ((failsBy_readAddress line head).ofInfix (CommandHead.infix_of_read hHead).1) _

/-- What stands in the brackets of a command stands in its line. -/
theorem infix_of_parse {line : Text} {c : Command} (h : parse line = .ok c) {p : Suffixes.Piece}
    (hp : p ∈ c.suffixes.pieces) : p.source.body <:+: line := by
  obtain ⟨head, hHead, -, -⟩ := read_of_parse h
  obtain ⟨-, hSplit, -⟩ := parts_of_parse hHead h
  exact (Suffixes.infix_of_split hSplit hp).trans (CommandHead.infix_of_read hHead).2

end Command

end Excerpt
