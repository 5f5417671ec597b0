import Excerpt.Main.Expression.Quotation
import Excerpt.Main.Expression.Reader
import Excerpt.Main.Expression.Scanner

/-!
# The grammar of expressions

The rules of expressions as they can stand in a tag: there are no square brackets, so neither lists
nor elements by index. Beside the rules that read there are rules that only look for flaws; they
come where a reader would expect the right form.

* `reuse_of_isSearch`: of the rules that only look for flaws, one keeps what it has matched.
-/

namespace Excerpt.Expression

/-- The names of the rules. -/
inductive Form where
  -- whole expressions
  | whole | expressions | expression | quietExpression | starExpressions | starExpression
  | element | elements | binding | bound | yielded
  -- operators, from the weakest to the strongest
  | disjunction | conjunction | inversion | comparison | comparisonPair
  | bitOr | bitXor | bitAnd | shift | sum | term | factor | power | awaited | primary
  -- what operators stand between
  | atom | quotations | group | tuple | set | dict | entries | entry | pair
  | loops | loop | setOfAll | generator | dictOfAll
  -- arguments
  | arguments | givenArguments | positional | namedArguments | namedOrStarred | namedOrUnpacked
  | starred
  -- targets of loops
  | targets | target | targetPart | targetAtom | tupleTargets | targetPrimary | targetGoesOn
  -- parameters
  | lambda | parameters | parameterList | slashPlain | slashDefault | starParameters
  | keywordParameters | plainParameter | defaultParameter | anyParameter | defaultValue
  -- flaws
  | flawedExpression | flawedFormerWord | flawedBound | flawedComprehension | flawedDictOfAll
  | flawedArguments | flawedNamed | flawedTarget | flawedGroup | flawedEntries | flawedPair
  | flawedDefault | flawedParameters | flawedStar | flawedKeywords
  deriving DecidableEq, Hashable, Repr

namespace Form

/-! ## Verdicts -/

/-- A part of a match. -/
def part (m : Matched) (n : Nat) : Tree := m.parts.getD n (.row [])

/-- Takes a part as it is. -/
def pick (n : Nat) (m : Matched) : Verdict := .accept (part m n)

/-- Makes a node of some of the parts. -/
def make (kind : Kind) (ns : List Nat) (m : Matched) : Verdict :=
  .accept (.node kind m.line (ns.map (part m)))

/-- The trees that follow separators. -/
def others (t : Tree) : List Tree :=
  t.toList.filterMap fun
    | .row [_, next] => some next
    | _ => none

/-- Makes a node of a part and of those that follow it behind separators. -/
def makeSeries (kind : Kind) (m : Matched) : Verdict :=
  .accept (.node kind m.line (part m 0 :: others (part m 1)))

/-- Makes a node of the trees of a part. -/
def makeAll (kind : Kind) (n : Nat) (m : Matched) : Verdict :=
  .accept (.node kind m.line (part m n).toList)

/-- Takes all parts in a row. -/
def takeRow (m : Matched) : Verdict := .accept (.row m.parts)

/-- Refuses the text because of a part. -/
def refuse (flaw : Flaw) (n : Nat) (m : Matched) : Verdict := .refuse flaw (some (part m n))

/-- Refuses the text because of what a part is called. -/
def refuseAs (flaw : String → Flaw) (n : Nat) (m : Matched) : Verdict :=
  .refuse (flaw (part m n).describe) (some (part m n))

/-- Refuses the text at the last token that has been looked at. -/
def refuseHere (flaw : Flaw) (_ : Matched) : Verdict := .refuse flaw none

/-- Makes a tuple of a first element and those behind it, all between brackets. -/
def makeTuple (m : Matched) : Verdict :=
  let items := match part m 1 with
    | .row [first, _, rest] => first :: rest.toList
    | _ => []
  .accept (.node .tuple m.line items)

/-- Makes a number, unless it is too long. -/
def makeNumber (m : Matched) : Verdict :=
  match Number.value (part m 0).tokenText with
  | .ok _ => .accept (.node .number m.line m.parts)
  | .error flaw => .refuse flaw (some (part m 0))

/-- Makes a text of quotations, unless they have a flaw. Only of bytes it is known which quotation
has it. -/
def makeText (m : Matched) : Verdict :=
  let quotation := fun t : Tree => Quotation.ofText t.tokenText
  let quotations := (part m 0).toList.map quotation
  match Quotation.checkAll quotations with
  | some .wideBytes =>
    .refuse .wideBytes ((part m 0).toList.find? fun t => (quotation t).check == some .wideBytes)
  | some flaw => .refuse flaw none
  | none =>
    let kind := if quotations.any Quotation.isFormatted then Kind.formatted else .text
    .accept (.node kind m.line (part m 0).toList)

/-- Makes arguments: those without a name, the starred ones included, and those with one. -/
def makeArguments (positional named : List Tree) (m : Matched) : Verdict :=
  let stars := named.filter (Tree.isKind .starred)
  let rest := named.filter fun t => !t.isKind .starred
  .accept (.node .arguments m.line [.row (positional ++ stars), .row rest])

/-- The arguments without a name, and those with one. -/
def argumentsOf : Tree → List Tree × List Tree
  | .node .arguments _ [unnamed, given] => (unnamed.toList, given.toList)
  | _ => ([], [])

/-- Refuses a generator without brackets of its own behind other arguments. -/
def refuseGenerator (m : Matched) : Verdict :=
  let positional := (argumentsOf (part m 0)).1
  if positional.length ≤ 1 then .reject else .refuse .bareGenerator positional.getLast?

/-- Refuses an argument without a name behind others with one. -/
def refusePositional (m : Matched) : Verdict :=
  if (argumentsOf (part m 0)).2.any (Tree.isKind .unpackedArgument) then
    .refuse .positionalBehindUnpacked none
  else .refuse .positionalBehindNamed none

/-- Refuses two expressions side by side, inside brackets. -/
def refuseNeighbour (m : Matched) : Verdict :=
  if (part m 1).name?.any Tree.isFormerWord || m.depth = 0 then .reject
  else .refuse .missingComma (some (part m 1))

/-- Refuses what stands behind a name that used to be a word of its own. -/
def refuseFormerWord (m : Matched) : Verdict :=
  let name := (part m 0).tokenText
  if Tree.isFormerWord name then .refuse (.missingBrackets name) (some (part m 0)) else .reject

/-- Refuses a target of a loop that cannot be given a value. -/
def refuseTarget (m : Matched) : Verdict :=
  match (part m 2).invalidTarget? with
  | some t => .refuse (.assigned t.describe) (some t)
  | none => .reject

/-! ## Rules -/

/-- An operator between two forms, the left one of its own rule. -/
def binary (self operand : Form) (kind : Kind) (signs : List String) : List (Alternative Form) :=
  signs.map (fun s => ⟨[.form self, .sign s, .form operand], make kind [0, 1, 2]⟩) ++
    [⟨[.form operand], pick 0⟩]

/-- A form, or several of them with a word between neighbours. -/
def chain (operand : Form) (word : String) : List (Alternative Form) :=
  [⟨[.form operand, .some (.all [.sign word, .form operand])], make .operation [0, 1]⟩,
    ⟨[.form operand], pick 0⟩]

/-- A form, or a tuple of them without brackets. -/
def series (item : Form) : List (Alternative Form) :=
  [⟨[.form item, .some (.all [.sign ",", .form item]), .optional (.sign ",")], makeSeries .tuple⟩,
    ⟨[.form item, .sign ","], make .tuple [0]⟩,
    ⟨[.form item], pick 0⟩]

/-- A loop behind a keyword, with its conditions. -/
def loopPatterns : List (Pattern Form) :=
  [.sign "for", .form .targets, .sign "in", .commit, .form .disjunction,
    .many (.all [.sign "if", .form .disjunction])]

/-- Patterns with a comma behind them, or in front of a colon. -/
def parameterEnds (patterns : List (Pattern Form)) : List (Alternative Form) :=
  [⟨patterns ++ [.sign ","], takeRow⟩, ⟨patterns ++ [.ahead (.sign ":")], takeRow⟩]

/-- A row of alternatives between the same patterns. -/
def anySign (signs : List String) : Pattern Form := .any (signs.map .sign)

/-- An element without a star, as an argument or in a generator. -/
def plainElement : Pattern Form :=
  .any [.form .binding, .all [.form .expression, .notAhead (.sign ":=")]]

/-- Whether the rule only looks for flaws where it stands alone. -/
def isSearch : Form → Bool
  | .flawedExpression | .flawedFormerWord | .flawedBound | .flawedComprehension
  | .flawedDictOfAll | .flawedArguments | .flawedNamed | .flawedTarget | .flawedGroup
  | .flawedDefault | .flawedParameters | .flawedStar | .flawedKeywords => true
  | _ => false

/-- How the matches of a rule are used again. -/
def reuse : Form → Reuse
  | .bitOr | .bitXor | .bitAnd | .shift | .sum | .term | .primary | .targetPrimary => .growing
  | .expression | .starExpression | .disjunction | .conjunction | .inversion | .factor | .awaited
  | .quotations | .arguments | .target | .targetPart | .flawedBound => .kept
  | _ => .never

/-- The alternatives of a rule. -/
def alternatives : Form → List (Alternative Form)
  -- whole expressions
  | .whole => [⟨[.form .expressions, .many (.kind .lineEnd), .kind .finish], pick 0⟩]
  | .expressions => series .expression
  | .expression =>
    [⟨[.form .flawedExpression], pick 0⟩,
      ⟨[.form .flawedFormerWord], pick 0⟩,
      ⟨[.form .disjunction, .sign "if", .form .disjunction, .sign "else", .form .expression],
        make .conditional [0, 2, 4]⟩,
      ⟨[.form .disjunction], pick 0⟩,
      ⟨[.form .lambda], pick 0⟩]
  | .quietExpression =>
    [⟨[.form .disjunction, .sign "if", .form .disjunction, .sign "else", .form .expression],
        make .conditional [0, 2, 4]⟩,
      ⟨[.form .disjunction], pick 0⟩,
      ⟨[.form .lambda], pick 0⟩]
  | .starExpressions => series .starExpression
  | .starExpression =>
    [⟨[.sign "*", .form .bitOr], make .starred [1]⟩, ⟨[.form .expression], pick 0⟩]
  | .element => [⟨[.sign "*", .form .bitOr], make .starred [1]⟩, ⟨[.form .bound], pick 0⟩]
  | .elements => [⟨[.separated (.form .element) ",", .optional (.sign ",")], pick 0⟩]
  | .binding =>
    [⟨[.kind .name, .sign ":=", .commit, .form .expression], make .named [0, 3]⟩]
  | .bound =>
    [⟨[.form .binding], pick 0⟩,
      ⟨[.form .flawedBound], pick 0⟩,
      ⟨[.form .expression, .notAhead (.sign ":=")], pick 0⟩]
  | .yielded =>
    [⟨[.sign "yield", .sign "from", .form .expression], make .yield [2]⟩,
      ⟨[.sign "yield", .optional (.form .starExpressions)], make .yield [1]⟩]
  -- operators
  | .disjunction => chain .conjunction "or"
  | .conjunction => chain .inversion "and"
  | .inversion =>
    [⟨[.sign "not", .form .inversion], make .operation [1]⟩, ⟨[.form .comparison], pick 0⟩]
  | .comparison =>
    [⟨[.form .bitOr, .some (.form .comparisonPair)], make .comparison [0, 1]⟩,
      ⟨[.form .bitOr], pick 0⟩]
  | .comparisonPair =>
    [["=="], ["!="], ["<="], ["<"], [">="], [">"], ["not", "in"], ["in"], ["is", "not"],
      ["is"]].map fun signs => ⟨signs.map .sign ++ [.form .bitOr], takeRow⟩
  | .bitOr => binary .bitOr .bitXor .operation ["|"]
  | .bitXor => binary .bitXor .bitAnd .operation ["^"]
  | .bitAnd => binary .bitAnd .shift .operation ["&"]
  | .shift => binary .shift .sum .operation ["<<", ">>"]
  | .sum => binary .sum .term .sum ["+", "-"]
  | .term => binary .term .factor .operation ["*", "/", "//", "%", "@"]
  | .factor =>
    [⟨[.sign "+", .form .factor], make .sign [0, 1]⟩,
      ⟨[.sign "-", .form .factor], make .sign [0, 1]⟩,
      ⟨[.sign "~", .form .factor], make .operation [1]⟩,
      ⟨[.form .power], pick 0⟩]
  | .power =>
    [⟨[.form .awaited, .sign "**", .form .factor], make .operation [0, 2]⟩,
      ⟨[.form .awaited], pick 0⟩]
  | .awaited => [⟨[.sign "await", .form .primary], make .await [1]⟩, ⟨[.form .primary], pick 0⟩]
  | .primary =>
    [⟨[.form .primary, .sign ".", .kind .name], make .member [0, 2]⟩,
      ⟨[.form .primary, .form .generator], make .call [0, 1]⟩,
      ⟨[.form .primary, .sign "(", .optional (.form .arguments), .sign ")"], make .call [0, 2]⟩,
      ⟨[.form .atom], pick 0⟩]
  -- what operators stand between
  | .atom =>
    [⟨[.kind .name], make .name [0]⟩,
      ⟨[.sign "True"], make .true [0]⟩,
      ⟨[.sign "False"], make .false [0]⟩,
      ⟨[.sign "None"], make .none [0]⟩,
      ⟨[.ahead (.kind .quoted), .form .quotations], pick 1⟩,
      ⟨[.kind .number], makeNumber⟩,
      ⟨[.ahead (.sign "("), .any [.form .tuple, .form .group, .form .generator]], pick 1⟩,
      ⟨[.ahead (.sign "\x7b"),
        .any [.form .dict, .form .set, .form .dictOfAll, .form .setOfAll]], pick 1⟩,
      ⟨[.sign "..."], make .ellipsis [0]⟩]
  | .quotations => [⟨[.some (.kind .quoted)], makeText⟩]
  | .group =>
    [⟨[.sign "(", .any [.form .yielded, .form .bound], .sign ")"], pick 1⟩,
      ⟨[.form .flawedGroup], pick 0⟩]
  | .tuple =>
    [⟨[.sign "(", .optional (.all [.form .element, .sign ",", .optional (.form .elements)]),
        .sign ")"], makeTuple⟩]
  | .set => [⟨[.sign "\x7b", .form .elements, .sign "\x7d"], makeAll .set 1⟩]
  | .dict =>
    [⟨[.sign "\x7b", .optional (.form .entries), .sign "\x7d"], makeAll .dict 1⟩,
      ⟨[.sign "\x7b", .form .flawedEntries, .sign "\x7d"], pick 1⟩]
  | .entries => [⟨[.separated (.form .entry) ",", .optional (.sign ",")], pick 0⟩]
  | .entry => [⟨[.sign "**", .form .bitOr], make .unpackedEntry [1]⟩, ⟨[.form .pair], pick 0⟩]
  | .pair => [⟨[.form .expression, .sign ":", .form .expression], make .pair [0, 2]⟩]
  | .loops => [⟨[.some (.form .loop)], pick 0⟩]
  | .loop =>
    [⟨.sign "async" :: loopPatterns, make .loop [2, 5]⟩,
      ⟨loopPatterns, make .loop [1, 4]⟩,
      ⟨[.form .flawedTarget], pick 0⟩]
  | .setOfAll =>
    [⟨[.sign "\x7b", .form .bound, .form .loops, .sign "\x7d"], make .setOfAll [1, 2]⟩,
      ⟨[.form .flawedComprehension], pick 0⟩]
  | .generator =>
    [⟨[.sign "(", plainElement, .form .loops, .sign ")"], make .generator [1, 2]⟩,
      ⟨[.form .flawedComprehension], pick 0⟩]
  | .dictOfAll =>
    [⟨[.sign "\x7b", .form .pair, .form .loops, .sign "\x7d"], make .dictOfAll [1, 2]⟩,
      ⟨[.form .flawedDictOfAll], pick 0⟩]
  -- arguments
  | .arguments =>
    [⟨[.form .givenArguments, .optional (.sign ","), .ahead (.sign ")")], pick 0⟩,
      ⟨[.form .flawedArguments], pick 0⟩]
  | .givenArguments =>
    [⟨[.separated (.form .positional) ",",
        .optional (.all [.sign ",", .form .namedArguments])],
        fun m => makeArguments (part m 0).toList
          (match part m 1 with
            | .row [_, named] => named.toList
            | _ => []) m⟩,
      ⟨[.form .namedArguments], fun m => makeArguments [] (part m 0).toList m⟩]
  | .positional =>
    [⟨[.form .starred], pick 0⟩, ⟨[plainElement, .notAhead (.sign "=")], fun m =>
      match part m 0 with
      | .row (t :: _) => .accept t
      | t => .accept t⟩]
  | .namedArguments =>
    [⟨[.separated (.form .namedOrStarred) ",", .sign ",", .separated (.form .namedOrUnpacked) ","],
        fun m => .accept (.row ((part m 0).toList ++ (part m 2).toList))⟩,
      ⟨[.separated (.form .namedOrStarred) ","], pick 0⟩,
      ⟨[.separated (.form .namedOrUnpacked) ","], pick 0⟩]
  | .namedOrStarred =>
    [⟨[.form .flawedNamed], pick 0⟩,
      ⟨[.kind .name, .sign "=", .form .expression], make .namedArgument [0, 2]⟩,
      ⟨[.form .starred], pick 0⟩]
  | .namedOrUnpacked =>
    [⟨[.form .flawedNamed], pick 0⟩,
      ⟨[.kind .name, .sign "=", .form .expression], make .namedArgument [0, 2]⟩,
      ⟨[.sign "**", .form .expression], make .unpackedArgument [1]⟩]
  | .starred =>
    [⟨[.sign "*", .form .expression], make .starred [1]⟩,
      ⟨[.sign "*"], refuseHere .bareStarred⟩]
  -- targets of loops
  | .targets =>
    [⟨[.form .target, .notAhead (.sign ",")], pick 0⟩,
      ⟨[.form .target, .many (.all [.sign ",", .form .target]), .optional (.sign ",")],
        makeSeries .tuple⟩]
  | .target =>
    [⟨[.sign "*", .notAhead (.sign "*"), .form .target], make .starred [2]⟩,
      ⟨[.form .targetPart], pick 0⟩]
  | .targetPart =>
    [⟨[.form .targetPrimary, .sign ".", .kind .name, .notAhead (.form .targetGoesOn)],
        make .member [0, 2]⟩,
      ⟨[.form .targetAtom], pick 0⟩]
  | .targetAtom =>
    [⟨[.kind .name], make .name [0]⟩,
      ⟨[.sign "(", .form .targetPart, .sign ")"], pick 1⟩,
      ⟨[.sign "(", .optional (.form .tupleTargets), .sign ")"], makeAll .tuple 1⟩]
  | .tupleTargets =>
    [⟨[.form .target, .some (.all [.sign ",", .form .target]), .optional (.sign ",")], takeRow⟩,
      ⟨[.form .target, .sign ","], takeRow⟩]
  | .targetPrimary =>
    [⟨[.form .targetPrimary, .sign ".", .kind .name, .ahead (.form .targetGoesOn)],
        make .member [0, 2]⟩,
      ⟨[.form .targetPrimary, .form .generator, .ahead (.form .targetGoesOn)],
        make .call [0, 1]⟩,
      ⟨[.form .targetPrimary, .sign "(", .optional (.form .arguments), .sign ")",
        .ahead (.form .targetGoesOn)], make .call [0, 2]⟩,
      ⟨[.form .atom, .ahead (.form .targetGoesOn)], pick 0⟩]
  | .targetGoesOn => [⟨[anySign ["(", "[", "."]], pick 0⟩]
  -- parameters
  | .lambda =>
    [⟨[.sign "lambda", .optional (.form .parameters), .sign ":", .form .expression],
      make .lambda [1, 3]⟩]
  | .parameters => [⟨[.form .flawedParameters], pick 0⟩, ⟨[.form .parameterList], pick 0⟩]
  | .parameterList =>
    let stars := .optional (.form .starParameters)
    [⟨[.form .slashPlain, .many (.form .plainParameter), .many (.form .defaultParameter), stars],
        takeRow⟩,
      ⟨[.form .slashDefault, .many (.form .defaultParameter), stars], takeRow⟩,
      ⟨[.some (.form .plainParameter), .many (.form .defaultParameter), stars], takeRow⟩,
      ⟨[.some (.form .defaultParameter), stars], takeRow⟩,
      ⟨[.form .starParameters], takeRow⟩]
  | .slashPlain => parameterEnds [.some (.form .plainParameter), .sign "/"]
  | .slashDefault =>
    parameterEnds [.many (.form .plainParameter), .some (.form .defaultParameter), .sign "/"]
  | .starParameters =>
    [⟨[.form .flawedStar], pick 0⟩,
      ⟨[.sign "*", .form .plainParameter, .many (.form .anyParameter),
        .optional (.form .keywordParameters)], takeRow⟩,
      ⟨[.sign "*", .sign ",", .some (.form .anyParameter),
        .optional (.form .keywordParameters)], takeRow⟩,
      ⟨[.form .keywordParameters], takeRow⟩]
  | .keywordParameters =>
    [⟨[.form .flawedKeywords], pick 0⟩, ⟨[.sign "**", .form .plainParameter], takeRow⟩]
  | .plainParameter => parameterEnds [.kind .name]
  | .defaultParameter => parameterEnds [.kind .name, .form .defaultValue]
  | .anyParameter => parameterEnds [.kind .name, .optional (.form .defaultValue)]
  | .defaultValue =>
    [⟨[.sign "=", .form .expression], takeRow⟩, ⟨[.form .flawedDefault], pick 0⟩]
  -- flaws
  | .flawedExpression =>
    [⟨[.notAhead (.any [.all [.kind .name, .kind .quoted], anySign ["_", "case", "match"]]),
        .form .disjunction, .form .quietExpression], refuseNeighbour⟩,
      ⟨[.form .disjunction, .sign "if", .form .disjunction, .notAhead (anySign ["else", ":"])],
        refuse .missingElse 0⟩]
  | .flawedFormerWord =>
    [⟨[.kind .name, .notAhead (.sign "("), .form .starExpressions], refuseFormerWord⟩]
  | .flawedBound =>
    [⟨[.form .expression, .sign ":=", .form .expression], refuseAs .boundBy 0⟩,
      ⟨[.kind .name, .sign "=", .form .bitOr, .notAhead (anySign ["=", ":="])],
        refuse .assignedName 0⟩,
      ⟨[.notAhead (.any [.form .tuple, .form .generator, .sign "True", .sign "None",
          .sign "False"]), .form .bitOr, .sign "=", .form .bitOr,
          .notAhead (anySign ["=", ":="])], refuseAs .assignedHere 1⟩]
  | .flawedComprehension =>
    [⟨[anySign ["(", "\x7b"], .form .starred, .form .loops], refuse .starredElement 1⟩,
      ⟨[.sign "\x7b", .form .element, .sign ",", .form .elements, .form .loops],
        refuse .bareTuple 1⟩,
      ⟨[.sign "\x7b", .form .element, .sign ",", .form .loops], refuse .bareTuple 1⟩]
  | .flawedDictOfAll =>
    [⟨[.sign "\x7b", .sign "**", .form .bitOr, .form .loops, .sign "\x7d"],
      refuse .unpackedEntry 1⟩]
  | .flawedArguments =>
    [⟨[.any [.all [.separated (.form .positional) ",", .sign ",", .form .namedArguments],
          .form .namedArguments], .sign ",",
          .separated (.all [.form .starred, .notAhead (.sign "=")]) ","],
        refuse .unpackedBehindUnpacked 1⟩,
      ⟨[.form .expression, .form .loops, .sign ",",
        .optional (.any [.form .givenArguments, .all [.form .expression, .form .loops]])],
        refuse .bareGenerator 0⟩,
      ⟨[.kind .name, .sign "=", .form .expression, .form .loops], refuse .assignedName 0⟩,
      ⟨[.form .givenArguments, .form .loops], refuseGenerator⟩,
      ⟨[.form .givenArguments, .sign ",", .form .expression, .form .loops],
        refuse .bareGenerator 2⟩,
      ⟨[.form .givenArguments, .sign ",", .form .givenArguments], refusePositional⟩]
  | .flawedNamed =>
    [⟨[anySign ["True", "False", "None"], .sign "="],
        fun m => .refuse (.assigned (Fault.plain (part m 0).tokenText)) (some (part m 0))⟩,
      ⟨[.kind .name, .sign "=", .form .expression, .form .loops], refuse .assignedName 0⟩,
      ⟨[.notAhead (.all [.kind .name, .sign "="]), .form .expression, .sign "="],
        refuse .assignedArgument 1⟩]
  | .flawedTarget =>
    [⟨[.optional (.sign "async"), .sign "for", .form .starExpressions], refuseTarget⟩]
  | .flawedGroup =>
    [⟨[.sign "(", .form .starred, .sign ")"], refuse .starredGroup 1⟩,
      ⟨[.sign "(", .sign "**", .form .expression, .sign ")"], refuse .doublyStarredGroup 1⟩]
  | .flawedEntries =>
    [⟨[.separated (.form .entry) ",", .sign ",", .form .flawedPair], pick 2⟩,
      ⟨[.form .expression, .sign ":", .sign "*", .form .bitOr], refuse .starredValue 2⟩,
      ⟨[.form .expression, .sign ":", .ahead (anySign ["\x7d", ","])], refuse .missingValue 1⟩]
  | .flawedPair =>
    [⟨[.form .expression, .notAhead (.sign ":")], refuse .missingColon 0⟩,
      ⟨[.form .expression, .sign ":", .sign "*", .form .bitOr], refuse .starredValue 2⟩,
      ⟨[.form .expression, .sign ":", .ahead (anySign ["\x7d", ","])], refuse .missingValue 1⟩]
  | .flawedDefault => [⟨[.sign "=", .ahead (anySign [")", ","])], refuse .missingDefault 0⟩]
  | .flawedParameters =>
    let plain := .many (.form .plainParameter)
    let slash := .any [.form .slashPlain, .form .slashDefault]
    [⟨[plain, .any [.form .slashDefault, .some (.form .defaultParameter)],
        .form .plainParameter], refuse .parameterBehindDefault 2⟩,
      ⟨[plain, .sign "(", .separated (.kind .name) ",", .optional (.sign ","), .sign ")"],
        refuse .bracketedParameters 1⟩,
      ⟨[.sign "/", .sign ","], refuse .slashFirst 0⟩,
      ⟨[slash, .many (.form .anyParameter), .sign "/"], refuse .slashTwice 2⟩,
      ⟨[.optional slash, .many (.form .anyParameter), .sign "*",
        .any [.sign ",", .form .plainParameter], .many (.form .anyParameter), .sign "/"],
        refuse .slashBehindStar 5⟩,
      ⟨[.some (.form .anyParameter), .sign "/", .sign "*"], refuse .starBehindSlash 2⟩]
  | .flawedStar =>
    [⟨[.sign "*", .any [.sign ":", .all [.sign ",", anySign [":", "**"]]]],
        refuseHere .bareStar⟩,
      ⟨[.sign "*", .kind .name, .sign "="], refuse .starredDefault 2⟩,
      ⟨[.sign "*", .any [.form .plainParameter, .sign ","], .many (.form .anyParameter),
        .sign "*", .any [.form .plainParameter, .sign ","]], refuse .starTwice 3⟩]
  | .flawedKeywords =>
    [⟨[.sign "**", .kind .name, .sign "="], refuse .keywordsDefault 2⟩,
      ⟨[.sign "**", .kind .name, .sign ",", .kind .name], refuse .parameterBehindKeywords 3⟩,
      ⟨[.sign "**", .kind .name, .sign ",", anySign ["*", "**", "/"]],
        refuse .parameterBehindKeywords 3⟩]

/-- The rule of a name. -/
def rule (f : Form) : Rule Form where
  alternatives := f.alternatives
  reuse := f.reuse
  isSearch := f.isSearch
  restsSearch := f = .quietExpression

/-! ## Laws -/

theorem reuse_of_isSearch {f : Form} (h : f.isSearch = true) :
    f.reuse = if f = .flawedBound then .kept else .never := by
  cases f <;> simp_all [isSearch, reuse]

end Form

/-- Reads an expression. Blanks in front of it do not count. -/
def read (t : Text) : Except Refusal Tree :=
  (⟨Form.rule, Tokens.scan (t.dropWhile fun c => c == ' ' || c == '\t')⟩ : Reader Form).read .whole

end Excerpt.Expression
