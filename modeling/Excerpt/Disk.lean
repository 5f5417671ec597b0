import Excerpt.Path
import Excerpt.Table
import Excerpt.Text.Utf8

/-!
# The disk

A disk is a finite table of places, each a directory or a file with its content, the working
directory in which relative paths begin, and a medium. A path is followed name by name: every name
needs a directory to be looked up in, also `..`, and only the last one may be missing. There are no
links.

The medium may keep a directory closed or refuse to open a file. A file that has been opened may
still break off while it is read or written; what was there before it was written is gone then.

* `get?_insert_self`, `get?_insert_of_ne`: writing an entry changes that entry only.
* `openToRead_eq_of_read`: a file is read as it is opened.
-/

namespace Excerpt

/-- The names from the top of the disk down. -/
abbrev Place := List Text

/-- What stands at a place. -/
inductive Entry where
  | file (content : Bytes)
  | directory
  deriving DecidableEq, Repr

/-- Why the system refuses a path or breaks off. -/
inductive SystemError where
  | missing
  | notDirectory
  | isDirectory
  | nameTooLong
  | other (number : Nat) (label description : String)
  deriving DecidableEq, Repr

/-- Why a file cannot be opened: the path holds a null character, or the system refuses it. -/
inductive OpenError where
  | nullCharacter
  | system (cause : SystemError)
  deriving DecidableEq, Repr

/-- What comes through of the content of a file that has been opened, and what breaks it off. -/
structure Transfer where
  content : Bytes
  broken : Option SystemError := none
  deriving DecidableEq, Repr

/-- How a file fails: it is not opened, or it breaks off and leaves something. -/
inductive FileError (α : Type) where
  | notOpened (e : OpenError)
  | broken (left : α) (cause : SystemError)
  deriving DecidableEq, Repr

/-- What files are kept on: why nothing can be looked up in a directory, what comes through of the
content of a file that is read, and what remains in a file of what is written to it. If there are no
answers of its own, all that is written remains, and all of it can be read. -/
structure Medium where
  entering : Place → Option SystemError := fun _ => none
  reading : Place → Bytes → Except SystemError Transfer := fun _ content => .ok { content }
  writing : Place → Bytes → Except SystemError Transfer := fun _ content => .ok { content }

/-- The entries below the top, the working directory, and the medium. -/
structure Disk where
  entries : Table Place Entry
  home : Place
  medium : Medium := {}

namespace Disk

/-- The longest name, in bytes. -/
def nameLimit : Nat := 255

/-- The number of bytes at which a path is too long. -/
def pathLimit : Nat := 4096

/-- What stands at the place; the top is a directory. -/
def get? (d : Disk) (place : Place) : Option Entry :=
  if place = [] then some .directory else d.entries.lookup place

/-- The same disk with another entry at the place. -/
def insert (d : Disk) (place : Place) (entry : Entry) : Disk :=
  { d with entries := (place, entry) :: d.entries.remove place }

/-- The same disk with nothing at the place. -/
def erase (d : Disk) (place : Place) : Disk :=
  { d with entries := d.entries.remove place }

/-! ## Following a path -/

/-- Follows one name from a place. -/
def step (d : Disk) (place : Place) (name : Text) : Except SystemError Place :=
  match d.get? place with
  | none => .error .missing
  | some (.file _) => .error .notDirectory
  | some .directory =>
    match d.medium.entering place with
    | some cause => .error cause
    | none =>
      if name = Path.here then .ok place
      else if name = Path.above then .ok place.dropLast
      else if nameLimit < Utf8.size name then .error .nameTooLong
      else .ok (place ++ [name])

/-- The place in which a path begins. -/
def start (d : Disk) : Root → Place
  | .relative => d.home
  | _ => []

/-- The place that a path leads to, whether or not something stands there. -/
def place (d : Disk) (p : Path) : Except SystemError Place :=
  if pathLimit ≤ Utf8.size p.toText then .error .nameTooLong
  else p.names.foldlM d.step (d.start p.root)

/-- The path from the top that is meant by a path, when each `..` takes back the name before
it. -/
def resolve (d : Disk) (p : Path) : Path :=
  ⟨.slash, p.names.foldl (fun place name =>
    if name = Path.above then place.dropLast else place ++ [name]) (d.start p.root)⟩

/-! ## Files -/

/-- The place of a path that is to be opened. -/
def target (d : Disk) (p : Path) : Except OpenError Place :=
  if p.toText.contains '\x00' then .error .nullCharacter
  else (d.place p).mapError .system

/-- Opens the file for reading: what comes through of its content. -/
def openToRead (d : Disk) (p : Path) : Except OpenError Transfer :=
  match d.target p with
  | .error e => .error e
  | .ok place =>
    match d.get? place with
    | some (.file content) => (d.medium.reading place content).mapError .system
    | some .directory => .error (.system .isDirectory)
    | none => .error (.system .missing)

/-- The content of the file, or what was read of it before it broke off. -/
def read (d : Disk) (p : Path) : Except (FileError Bytes) Bytes :=
  match d.openToRead p with
  | .error e => .error (.notOpened e)
  | .ok ⟨content, none⟩ => .ok content
  | .ok ⟨part, some cause⟩ => .error (.broken part cause)

/-- Opens the file for writing, whether or not it was there before: its place, and what remains
there of the content. -/
def openToWrite (d : Disk) (p : Path) (content : Bytes) : Except OpenError (Place × Transfer) :=
  match d.target p with
  | .error e => .error e
  | .ok place =>
    match d.get? place with
    | some .directory => .error (.system .isDirectory)
    | _ => ((d.medium.writing place content).map (place, ·)).mapError .system

/-- The disk after the file has been written, or after it broke off. -/
def write (d : Disk) (p : Path) (content : Bytes) : Except (FileError Disk) Disk :=
  match d.openToWrite p content with
  | .error e => .error (.notOpened e)
  | .ok (place, ⟨kept, none⟩) => .ok (d.insert place (.file kept))
  | .ok (place, ⟨kept, some cause⟩) => .error (.broken (d.insert place (.file kept)) cause)

/-- Puts an entry at a path together with the directories above it. -/
def plant (d : Disk) (p : Path) (entry : Entry) : Disk :=
  let above := d.start p.root
  let places := (List.range p.names.length).map fun n => above ++ p.names.take n
  let d' := places.foldl (fun d place =>
    if (d.get? place).isSome then d else d.insert place .directory) d
  d'.insert (above ++ p.names) entry

/-- Takes away what stands at a path. -/
def uproot (d : Disk) (p : Path) : Disk :=
  match d.place p with
  | .ok place => d.erase place
  | .error _ => d

/-! ## Laws of the table -/

theorem get?_insert_self (d : Disk) {place : Place} (h : place ≠ []) (entry : Entry) :
    (d.insert place entry).get? place = some entry := by
  simp [get?, insert, h]

theorem get?_insert_of_ne (d : Disk) {place other : Place} (h : other ≠ place)
    (entry : Entry) : (d.insert place entry).get? other = d.get? other := by
  have hne : (other == place) = false := by simpa using h
  simp [get?, insert, List.lookup_cons, hne, Table.lookup_remove_of_ne h]

/-- What is read says how the file was opened. -/
theorem openToRead_eq_of_read {d d' : Disk} {p : Path} (h : d'.read p = d.read p) :
    d'.openToRead p = d.openToRead p := by
  unfold read at h
  split at h <;> split at h <;> simp_all

end Disk

end Excerpt
