import Excerpt.Main.Expression.Grammar

/-!
# Values of expressions

An expression has a value of its own if it is written with numbers, texts, constants, tuples, sets
and dictionaries alone; a number may have a sign, and an imaginary one may be added to a real one.
What is an element of a set or a key must be such that it can be looked for: neither a set nor a
dictionary nor a tuple that holds one.

* `unhashable?_tuple_of_atoms`: a tuple of constants can be looked for.
* `valueOfSigned_of_number`: a number without a sign is a number.
-/

namespace Excerpt.Expression

/-- A value, as far as it matters what can be done with it. -/
inductive Value where
  | number (v : Number.Value)
  | atom
  | tuple (items : List Value)
  | set
  | dict

/-- Why an expression has no value. -/
inductive ValueFlaw where
  | unhashable (what : String)
  | numberTooLarge
  | unpackedEntry
  | noLiteral (line : Option Nat)
  deriving DecidableEq, Repr

namespace ValueFlaw

def label : ValueFlaw → String
  | .unhashable _ => "TypeError"
  | .numberTooLarge => FaultKind.overflow.label
  | .unpackedEntry | .noLiteral _ => FaultKind.value.label

def message : ValueFlaw → String
  | .unhashable what => s!"unhashable type: '{what}'"
  | .numberTooLarge => "int too large to convert to float"
  | .unpackedEntry => "malformed node or string: None"
  | .noLiteral line =>
    "malformed node or string" ++
      match line with
      | some line => s!" on line {line}"
      | none => ""

end ValueFlaw

namespace Value

mutual

/-- What in a value keeps it from being looked for. -/
def unhashable? : Value → Option String
  | .set => some "set"
  | .dict => some "dict"
  | .tuple items => unhashableIn? items
  | _ => none

def unhashableIn? : List Value → Option String
  | [] => none
  | v :: rest => (unhashable? v).or (unhashableIn? rest)

end

/-- Refuses a value that cannot be looked for. -/
def checkHashable (v : Value) : Except ValueFlaw Unit :=
  match v.unhashable? with
  | some what => .error (.unhashable what)
  | none => .ok ()

theorem unhashable?_tuple_of_atoms (n : Nat) :
    (Value.tuple (List.replicate n .atom)).unhashable? = none := by
  simp only [unhashable?]
  induction n with
  | zero => rfl
  | succ n ih => simpa [List.replicate_succ, unhashableIn?, unhashable?] using ih

end Value

/-- The least whole number that is too large to be added to an imaginary one. -/
def realLimit : Nat := (1 <<< 1024) - (1 <<< 970)

namespace Tree

/-- The value of a number without a sign. -/
def valueOfNumber : Tree → Except ValueFlaw Number.Value
  | .node .number _ [.token t] => (Number.value t.text).mapError fun _ => .noLiteral (some t.line)
  | t => .error (.noLiteral t.line?)

/-- The value of a number that may have a sign. -/
def valueOfSigned : Tree → Except ValueFlaw Number.Value
  | .node .sign _ [_, operand] => operand.valueOfNumber
  | t => t.valueOfNumber

theorem valueOfSigned_of_number (line : Nat) (parts : List Tree) :
    valueOfSigned (.node .number line parts) = valueOfNumber (.node .number line parts) := rfl

/-- The value of a real number with an imaginary one, on a line. -/
def valueOfSum (line : Nat) (left right : Tree) : Except ValueFlaw Value := do
  let first ← left.valueOfSigned
  let second ← right.valueOfNumber
  match first, second with
  | .imaginary, _ => throw (.noLiteral (some line))
  | .whole n, .imaginary =>
    if realLimit ≤ n then throw .numberTooLarge else return .number .imaginary
  | .fraction, .imaginary => return .number .imaginary
  | _, _ => throw (.noLiteral (some line))

/-- Whether an expression makes an empty set. -/
def isEmptySet (callee arguments : Tree) : Bool :=
  callee.name? == some "set".toList &&
    match arguments with
    | .row [] => Bool.true
    | _ => Bool.false

mutual

/-- The value of an expression. -/
def value : Tree → Except ValueFlaw Value
  | .node .text _ _ | .node .true _ _ | .node .false _ _ | .node .none _ _
  | .node .ellipsis _ _ => .ok .atom
  | .node .tuple _ items => (values items).map .tuple
  | .node .set _ items => (valuesOfSet items).map fun _ => .set
  | .node .dict _ entries => (valuesOfDict entries).map fun _ => .dict
  | .node .call line [callee, arguments] =>
    if isEmptySet callee arguments then .ok .set else .error (.noLiteral (some line))
  | .node .sum line [left, _, right] => valueOfSum line left right
  | t => t.valueOfSigned.map .number

/-- The values of expressions in order. -/
def values : List Tree → Except ValueFlaw (List Value)
  | [] => .ok []
  | t :: rest => do
    let v ← value t
    return v :: (← values rest)

/-- The values of the elements of a set: each is looked for before the next. -/
def valuesOfSet : List Tree → Except ValueFlaw Unit
  | [] => .ok ()
  | t :: rest => do
    let v ← value t
    v.checkHashable
    valuesOfSet rest

/-- The values of the entries of a dictionary: each key is looked for behind its value. -/
def valuesOfDict : List Tree → Except ValueFlaw Unit
  | [] => .ok ()
  | .node .pair _ [key, held] :: rest => do
    let k ← value key
    let _ ← value held
    k.checkHashable
    valuesOfDict rest
  | _ :: _ => .error .unpackedEntry

end

end Tree

end Excerpt.Expression
