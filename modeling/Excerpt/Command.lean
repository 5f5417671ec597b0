import Excerpt.Command.Suffixes

/-!
# Commands

A line is a command if it begins with one of the two keywords. Behind the keyword stands the
target in parentheses, a file and an address with a colon between them, and behind that the
suffixes. The address is a line or a range of lines for the one keyword, and the name of a marked
block for the other.

* `kind_of_parse`: the kind of a command that was read is the kind its line begins with.
* `targetName_of_parse`: and its file is the one that is read without its suffixes.
-/

namespace Excerpt

/-- The two commands. -/
inductive CommandKind where
  | marker
  | direct
  deriving DecidableEq, Repr

namespace CommandKind

/-- The word that a command begins with. -/
def keyword : CommandKind → Text
  | .marker => ['r', 'e', 'v', '_', 'i', 'n', 's', 'e', 'r', 't', '_', 'c', 'o', 'd', 'e']
  | .direct => ['i', 'n', 's', 'e', 'r', 't', '_', 'c', 'o', 'd', 'e']

/-- The command that a line begins with. -/
def ofLine? (line : Text) : Option CommandKind :=
  if marker.keyword.isPrefixOf line then some .marker
  else if direct.keyword.isPrefixOf line then some .direct
  else none

end CommandKind

/-- Whether a line begins with a command. -/
def isCommandLine (line : Text) : Bool := (CommandKind.ofLine? line).isSome

/-! ## The head -/

/-- A command before its address and its suffixes are read. -/
structure CommandHead where
  kind : CommandKind
  filename : Text
  address : Text
  suffixes : Text
  deriving DecidableEq, Repr

namespace CommandHead

/-- The target between the parentheses behind the keyword, and the suffixes, which stand on the
same line. The target holds no parentheses. -/
def parts? (behindKeyword : Text) : Option (Text × Text) :=
  match behindKeyword with
  | '(' :: rest =>
    match rest.dropWhile (fun c => c != '(' && c != ')') with
    | ')' :: suffixes =>
      if suffixes.contains '\n' then none
      else some (rest.takeWhile (fun c => c != '(' && c != ')'), suffixes)
    | _ => none
  | _ => none

/-- The kind, the target and the suffixes of a line without its end. -/
def shape? (line : Text) : Option (CommandKind × Text × Text) :=
  (CommandKind.ofLine? line).bind fun kind =>
    (parts? (line.drop kind.keyword.length)).map fun (target, suffixes) =>
      (kind, target, suffixes)

/-- The line without the returns and line feeds at its end. -/
def chomp (line : Text) : Text := Text.dropEndWhile (fun c => c == '\r' || c == '\n') line

/-- Reads the head of a command. The last colon of the target stands before the address. -/
def read (line : Text) : Except Fault CommandHead :=
  match shape? (chomp line) with
  | none => .error (.malformedCommand line)
  | some (kind, target, suffixes) =>
    match Text.cutLast ':' target with
    | none => .error (.malformedTarget line)
    | some (filename, address) =>
      if (Text.trim filename).isEmpty then .error (.malformedTarget line)
      else .ok ⟨kind, Text.trim filename, Text.trim address, suffixes⟩

end CommandHead

/-! ## The command -/

/-- Where the code stands in its file. -/
inductive Address where
  | lines (range : LineRange)
  | block (id : Text)
  deriving DecidableEq, Repr

/-- A command. -/
structure Command where
  filename : Text
  address : Address
  suffixes : Suffixes
  deriving DecidableEq, Repr

namespace Command

def kind (c : Command) : CommandKind :=
  match c.address with
  | .lines _ => .direct
  | .block _ => .marker

/-- Reads the lines of a direct command: a range, or a single line. -/
def readLines (address : Text) : Except Fault LineRange :=
  if address.contains '-' then
    match readSpan "line range".toList address with
    | .error fault => .error fault
    | .ok (first, last) => LineRange.of first last
  else
    match readNumber "line number".toList address with
    | .error fault => .error fault
    | .ok line => LineRange.of line line

/-- Reads the address of a command of the given kind. -/
def readAddress (line : Text) (head : CommandHead) : Except Fault Address :=
  match head.kind with
  | .direct => (readLines head.address).map .lines
  | .marker =>
    if head.address.isEmpty then .error (.missingBlockId line) else .ok (.block head.address)

/-- Reads a command. The suffixes are taken apart before the address is read. -/
def parse (line : Text) : Except Fault Command :=
  match CommandHead.read line with
  | .error fault => .error fault
  | .ok head =>
    match Suffixes.split head.suffixes with
    | .error fault => .error fault
    | .ok suffixes =>
      (readAddress line head).map fun address => ⟨head.filename, address, suffixes⟩

/-- The file that a command line names, whatever its suffixes are. -/
def targetName (line : Text) : Except Fault Text :=
  (CommandHead.read line).map CommandHead.filename

/-- The path of the file below the root of the code. -/
def sourcePath (c : Command) (root : Path) : Path := root.join (Path.ofText c.filename)

/-! ## Laws -/

theorem read_of_parse {line : Text} {c : Command} (h : parse line = .ok c) :
    ∃ head, CommandHead.read line = .ok head ∧ c.filename = head.filename ∧
      c.kind = head.kind := by
  unfold parse at h
  split at h
  · cases h
  · rename_i head hHead
    refine ⟨head, hHead, ?_⟩
    split at h
    · cases h
    · unfold readAddress at h
      cases hk : head.kind with
      | direct =>
        rw [hk] at h
        cases hr : readLines head.address with
        | error fault => simp [hr, Except.map] at h
        | ok range =>
          simp only [hr, Except.map, Except.ok.injEq] at h
          subst h
          exact ⟨rfl, rfl⟩
      | marker =>
        rw [hk] at h
        simp only at h
        split at h
        · simp [Except.map] at h
        · simp only [Except.map, Except.ok.injEq] at h
          subst h
          exact ⟨rfl, rfl⟩

theorem targetName_of_parse {line : Text} {c : Command} (h : parse line = .ok c) :
    targetName line = .ok c.filename := by
  obtain ⟨head, hHead, hName, -⟩ := read_of_parse h
  simp [targetName, hHead, Except.map, hName]

theorem kind_of_read {line : Text} {head : CommandHead} (h : CommandHead.read line = .ok head) :
    CommandKind.ofLine? (CommandHead.chomp line) = some head.kind := by
  unfold CommandHead.read at h
  split at h
  · cases h
  · rename_i kind target suffixes hs
    have hk : CommandKind.ofLine? (CommandHead.chomp line) = some kind := by
      unfold CommandHead.shape? at hs
      obtain ⟨k, hk, hm⟩ := Option.bind_eq_some_iff.mp hs
      obtain ⟨p, -, hp⟩ := Option.map_eq_some_iff.mp hm
      cases hp
      exact hk
    split at h
    · cases h
    · split at h
      · cases h
      · cases h
        exact hk

theorem kind_of_parse {line : Text} {c : Command} (h : parse line = .ok c) :
    CommandKind.ofLine? (CommandHead.chomp line) = some c.kind := by
  obtain ⟨head, hHead, -, hKind⟩ := read_of_parse h
  rw [hKind]
  exact kind_of_read hHead

end Command

end Excerpt
