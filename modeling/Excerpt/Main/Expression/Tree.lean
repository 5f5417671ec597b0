import Excerpt.Main.Expression.Token

/-!
# Trees of expressions

A tree has tokens as leaves. Its nodes are the expressions, each of a kind, and the parts of
expressions that are none themselves.

* `invalidTarget?_name`: a name can be given a value.
* `describe_of_sum`: a sum is described as an expression, as every operation is.
-/

namespace Excerpt.Expression

/-- The kinds of nodes. -/
inductive Kind where
  -- expressions
  | name | number | text | formatted | true | false | none | ellipsis
  | tuple | set | dict | call | member | starred
  | sign | sum | operation | comparison | conditional | lambda | named | yield | await
  | generator | setOfAll | dictOfAll
  -- parts of expressions
  | pair | unpackedEntry | arguments | namedArgument | unpackedArgument | loop
  deriving DecidableEq, Repr

namespace Kind

/-- What an expression of the kind is called when it cannot be given a value. -/
def describe : Kind → String
  | .name => "name"
  | .number | .text => "literal"
  | .formatted => "f-string expression"
  | .true => "True"
  | .false => "False"
  | .none => "None"
  | .ellipsis => "ellipsis"
  | .tuple => "tuple"
  | .set => "set display"
  | .dict => "dict literal"
  | .call => "function call"
  | .member => "attribute"
  | .starred => "starred"
  | .comparison => "comparison"
  | .conditional => "conditional expression"
  | .lambda => "lambda"
  | .named => "named expression"
  | .yield => "yield expression"
  | .await => "await expression"
  | .generator => "generator expression"
  | .setOfAll => "set comprehension"
  | .dictOfAll => "dict comprehension"
  | _ => "expression"

theorem describe_of_sum : describe .sum = describe .operation := rfl

end Kind

/-- A token, several trees in a row, or a node. A node knows the line where it begins. -/
inductive Tree where
  | token (t : Token)
  | row (parts : List Tree)
  | node (kind : Kind) (line : Nat) (parts : List Tree)

namespace Tree

/-- The trees of a row, and any other tree as the only one. -/
def toList : Tree → List Tree
  | .row parts => parts
  | t => [t]

/-- The text of a token. -/
def tokenText : Tree → Text
  | .token t => t.text
  | _ => []

def describe : Tree → String
  | .node kind _ _ => kind.describe
  | _ => Kind.describe .operation

/-- The line where a tree begins. -/
def line? : Tree → Option Nat
  | .token t => some t.line
  | .node _ line _ => some line
  | .row (t :: _) => line? t
  | .row [] => none

def isKind (kind : Kind) : Tree → Bool
  | .node k _ _ => k = kind
  | _ => Bool.false

/-- The text of a name. -/
def name? : Tree → Option Text
  | .node .name _ [.token t] => some t.text
  | _ => none

/-- Whether a name is one of the two that used to be words of their own. -/
def isFormerWord (name : Text) : Bool := name == "print".toList || name == "exec".toList

mutual

/-- The first part of an expression that a loop cannot give values to. Of a comparison that asks
for an element, the left side is meant. -/
def invalidTarget? : Tree → Option Tree
  | .node .tuple _ parts => invalidTargetIn? parts
  | .node .starred _ parts => invalidTargetIn? parts
  | .node .comparison _ [left, .row (.row (.token t :: _) :: _)] =>
    if t.text = "in".toList then invalidTarget? left else none
  | .node .comparison _ _ => none
  | .node .name _ _ => none
  | .node .member _ _ => none
  | .node kind line parts => some (.node kind line parts)
  | _ => none

/-- The first such part in several expressions. -/
def invalidTargetIn? : List Tree → Option Tree
  | [] => none
  | t :: rest => (invalidTarget? t).or (invalidTargetIn? rest)

end

theorem invalidTarget?_name (line : Nat) (parts : List Tree) :
    invalidTarget? (.node .name line parts) = none := by
  simp [invalidTarget?]

end Tree

end Excerpt.Expression
