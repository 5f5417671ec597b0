import Excerpt.Fault

/-!
# Selector items

What a selector can name: a line, a range of lines, or columns of one line. Lines and columns
count from one, ranges include both ends, and none is empty; an item that breaks this cannot be
made. Asking whether an item contains a line looks at lines only, also for columns.

* `LineRange.of_eq_ok_iff`, `LineNumber.of_eq_ok_iff`, `CharRange.of_eq_ok_iff`: exactly the
  numbers in order make an item, and it has these numbers.
* `Item.contains_shift`: an item moved down by `k` contains the lines it contained, moved by `k`.
-/

namespace Excerpt

/-- A single line. -/
structure LineNumber where
  line : Nat
  one_le_line : 1 ≤ line
  deriving DecidableEq, Repr

/-- The lines from the first to the last. -/
structure LineRange where
  first : Nat
  last : Nat
  one_le_first : 1 ≤ first
  first_le_last : first ≤ last
  deriving DecidableEq, Repr

/-- The columns from the first to the last of one line. -/
structure CharRange where
  line : Nat
  first : Nat
  last : Nat
  one_le_line : 1 ≤ line
  one_le_first : 1 ≤ first
  first_le_last : first ≤ last
  deriving DecidableEq, Repr

/-- One item of a selector. -/
inductive Item where
  | line (item : LineNumber)
  | range (item : LineRange)
  | columns (item : CharRange)
  deriving DecidableEq, Repr

namespace LineNumber

/-- The line with the given number. -/
def of (line : Int) : Except Fault LineNumber :=
  if h : 1 ≤ line then .ok ⟨line.toNat, by omega⟩ else .error (.lineOutOfRange line)

theorem of_eq_ok_iff {line : Int} {item : LineNumber} :
    of line = .ok item ↔ (item.line : Int) = line := by
  have := item.one_le_line
  unfold of
  split
  · rw [Except.ok.injEq]
    obtain ⟨n, hn⟩ := item
    simp only [LineNumber.mk.injEq]
    omega
  · simp only [reduceCtorEq, false_iff]
    omega

end LineNumber

namespace LineRange

/-- Whether a number has more digits than can be written. -/
def isUnwritable (n : Int) : Bool := Nat.pow 10 Fault.digitLimit ≤ n.natAbs

/-- The fault of two numbers that bound no range. -/
def refuse (first last : Int) : Fault :=
  if isUnwritable first || isUnwritable last then .numberTooLong
  else if first < 1 then .rangeOutOfRange first last
  else .rangeReversed first last

/-- The range between the given lines. -/
def of (first last : Int) : Except Fault LineRange :=
  if h : 1 ≤ first ∧ first ≤ last then .ok ⟨first.toNat, last.toNat, by omega, by omega⟩
  else .error (refuse first last)

def contains (r : LineRange) (line : Int) : Bool := r.first ≤ line && line ≤ r.last

/-- The number of lines. -/
def size (r : LineRange) : Nat := r.last - r.first + 1

/-- The number of lines, if it can be counted. -/
def count (r : LineRange) : Except Fault Nat :=
  if Fault.sizeLimit < r.size then .error .sizeTooLarge else .ok r.size

theorem of_eq_ok_iff {first last : Int} {r : LineRange} :
    of first last = .ok r ↔ (r.first : Int) = first ∧ (r.last : Int) = last := by
  have h1 := r.one_le_first
  have h2 := r.first_le_last
  unfold of
  split
  · rw [Except.ok.injEq]
    obtain ⟨a, b, ha, hb⟩ := r
    simp only [LineRange.mk.injEq]
    omega
  · simp only [reduceCtorEq, false_iff]
    omega

theorem one_le_size (r : LineRange) : 1 ≤ r.size := by simp [size]

/-- The same range `k` lines further down. -/
def shift (r : LineRange) (k : Nat) : LineRange :=
  have := r.one_le_first
  have := r.first_le_last
  ⟨r.first + k, r.last + k, by omega, by omega⟩

end LineRange

namespace CharRange

/-- The columns between the given ones of a line. -/
def of (line first last : Int) : Except Fault CharRange :=
  if h : 1 ≤ line ∧ 1 ≤ first ∧ first ≤ last then
    .ok ⟨line.toNat, first.toNat, last.toNat, by omega, by omega, by omega⟩
  else .error (.invalidColumns line first last)

theorem of_eq_ok_iff {line first last : Int} {c : CharRange} :
    of line first last = .ok c ↔
      (c.line : Int) = line ∧ (c.first : Int) = first ∧ (c.last : Int) = last := by
  have h1 := c.one_le_line
  have h2 := c.one_le_first
  have h3 := c.first_le_last
  unfold of
  split
  · rw [Except.ok.injEq]
    obtain ⟨l, a, b, hl, ha, hb⟩ := c
    simp only [CharRange.mk.injEq]
    omega
  · simp only [reduceCtorEq, false_iff]
    omega

end CharRange

namespace Item

/-- Whether the line is one that the item names. -/
def contains : Item → Int → Bool
  | .line item, n => n == item.line
  | .range item, n => item.contains n
  | .columns item, n => n == item.line

/-- The same item `k` lines further down; columns stay. -/
def shift (k : Nat) : Item → Item
  | .line item => .line ⟨item.line + k, Nat.le_add_right_of_le item.one_le_line⟩
  | .range item => .range (item.shift k)
  | .columns item =>
    .columns { item with
      line := item.line + k
      one_le_line := Nat.le_add_right_of_le item.one_le_line }

theorem contains_shift (item : Item) (k : Nat) (n : Int) :
    (item.shift k).contains (n + k) = item.contains n := by
  cases item with
  | line item =>
    simp only [shift, contains]
    rw [Bool.eq_iff_iff, beq_iff_eq, beq_iff_eq]
    omega
  | range item =>
    simp only [shift, contains, LineRange.contains, LineRange.shift]
    rw [Bool.eq_iff_iff]
    simp only [Bool.and_eq_true, decide_eq_true_eq]
    omega
  | columns item =>
    simp only [shift, contains]
    rw [Bool.eq_iff_iff, beq_iff_eq, beq_iff_eq]
    omega

end Item

end Excerpt
