import Excerpt.Selector.Item

/-!
# Selectors

A selector is an ordered list of items together with the way its line numbers are meant: as lines
of the file, or counted from the first line of the block that the command names. Highlights take
every item that contains a line, edits only the first.

* `Addressing.resolve_relative`: a relative item is the item moved to the block.
* `Highlights.toAbsolute_absolute`, `Edits.toAbsolute_absolute`: what is absolute stays.
-/

namespace Excerpt

/-- How the line numbers of a selector are meant. -/
inductive Addressing where
  | absolute
  | relative
  deriving DecidableEq, Repr

namespace Addressing

/-- The line of the file that a written number means. -/
def toAbsolute (mode : Addressing) (line : Int) (base : Option LineRange) :
    Except Fault Int :=
  match mode, base with
  | .absolute, _ => .ok line
  | .relative, none => .error .noBlockToCountFrom
  | .relative, some base => .ok (base.first + line - 1)

/-- The item with its lines as lines of the file. An item that is relative is made anew, so its
numbers are checked again. -/
def resolve (mode : Addressing) (item : Item) (base : Option LineRange) : Except Fault Item :=
  match mode, item with
  | .absolute, item => .ok item
  | .relative, .line item => do
    let line ← toAbsolute .relative item.line base
    (LineNumber.of line).map .line
  | .relative, .range item => do
    let first ← toAbsolute .relative item.first base
    let last ← toAbsolute .relative item.last base
    (LineRange.of first last).map .range
  | .relative, .columns item => do
    let line ← toAbsolute .relative item.line base
    (CharRange.of line item.first item.last).map .columns

theorem toAbsolute_relative (line : Nat) (base : LineRange) :
    toAbsolute .relative line (some base) = .ok ((line + (base.first - 1) : Nat) : Int) := by
  have := base.one_le_first
  simp only [toAbsolute, Except.ok.injEq]
  omega

/-- The numbers of an item that is moved down pass their checks again. -/
theorem resolve_relative (item : Item) (base : LineRange) :
    resolve .relative item (some base) = .ok (item.shift (base.first - 1)) := by
  have hLine (n : Nat) := toAbsolute_relative n base
  cases item with
  | line item =>
    have hOf : LineNumber.of ((item.line + (base.first - 1) : Nat) : Int) =
        .ok ⟨_, Nat.le_add_right_of_le item.one_le_line⟩ :=
      LineNumber.of_eq_ok_iff.mpr rfl
    simp only [resolve, hLine, bind, Except.bind, hOf]
    rfl
  | range item =>
    have hOf : LineRange.of ((item.first + (base.first - 1) : Nat) : Int)
        ((item.last + (base.first - 1) : Nat) : Int) = .ok (item.shift (base.first - 1)) :=
      LineRange.of_eq_ok_iff.mpr ⟨rfl, rfl⟩
    simp only [resolve, hLine, bind, Except.bind, hOf]
    rfl
  | columns item =>
    have hOf : CharRange.of ((item.line + (base.first - 1) : Nat) : Int) item.first item.last =
        .ok ⟨_, _, _, Nat.le_add_right_of_le item.one_le_line, item.one_le_first,
          item.first_le_last⟩ :=
      CharRange.of_eq_ok_iff.mpr ⟨rfl, rfl, rfl⟩
    simp only [resolve, hLine, bind, Except.bind, hOf]
    rfl

end Addressing

/-! ## Highlights -/

/-- The items whose lines are marked. -/
structure Highlights where
  items : List Item := []
  mode : Addressing := .absolute
  deriving DecidableEq, Repr

namespace Highlights

/-- The same highlights by lines of the file. -/
def toAbsolute (h : Highlights) (base : Option LineRange) : Except Fault Highlights :=
  match h.mode with
  | .absolute => .ok h
  | .relative =>
    match h.items.mapM (fun item => h.mode.resolve item base) with
    | .ok items => .ok ⟨items, .absolute⟩
    | .error fault => .error fault

/-- The columns that are named for a line, in the order of the selector. -/
def columnsOf (h : Highlights) (line : Int) : List CharRange :=
  h.items.filterMap fun
    | .columns item => if line == item.line then some item else none
    | _ => none

/-- Whether the line as a whole is named. -/
def marks (h : Highlights) (line : Int) : Bool :=
  h.items.any fun
    | .columns _ => false
    | item => item.contains line

theorem toAbsolute_absolute {h : Highlights} (hm : h.mode = .absolute)
    (base : Option LineRange) : h.toAbsolute base = .ok h := by
  simp [toAbsolute, hm]

end Highlights

/-! ## Edits -/

/-- What is done with the lines or columns of an item. -/
inductive EditKind where
  | ellipsis
  | hide
  | remove
  deriving DecidableEq, Repr

/-- The letter that a kind of edit is written with. -/
def EditKind.letter : EditKind → Char
  | .ellipsis => 'd'
  | .hide => 'h'
  | .remove => 'r'

def EditKind.ofLetter? (c : Char) : Option EditKind :=
  if c = 'd' then some .ellipsis
  else if c = 'h' then some .hide
  else if c = 'r' then some .remove
  else none

/-- An item and what is done with it. -/
structure Edit where
  item : Item
  kind : EditKind
  deriving DecidableEq, Repr

/-- The edits of a command. -/
structure Edits where
  items : List Edit := []
  mode : Addressing := .absolute
  deriving DecidableEq, Repr

namespace Edits

/-- The same edits by lines of the file. -/
def toAbsolute (e : Edits) (base : Option LineRange) : Except Fault Edits :=
  match e.mode with
  | .absolute => .ok e
  | .relative =>
    match e.items.mapM (fun edit =>
        (e.mode.resolve edit.item base).map fun item => Edit.mk item edit.kind) with
    | .ok items => .ok ⟨items, .absolute⟩
    | .error fault => .error fault

/-- The edit that applies to a line: the first that contains it. -/
def firstMatch (e : Edits) (line : Int) : Option Edit :=
  e.items.find? fun edit => edit.item.contains line

theorem toAbsolute_absolute {e : Edits} (hm : e.mode = .absolute)
    (base : Option LineRange) : e.toAbsolute base = .ok e := by
  simp [toAbsolute, hm]

end Edits

end Excerpt
