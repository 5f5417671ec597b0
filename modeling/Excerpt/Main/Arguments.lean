import Excerpt.Text.Basic

/-!
# Arguments

A list of arguments holds options and plain arguments. An option has a long name behind two dashes
or a letter behind one; letters may stand together. The value of an option stands behind an equals
sign after a long name, behind a letter, or in the next argument, whatever that is. Two dashes
alone end the options, and one dash is a plain argument.

* `read_end`: what stands behind the end of the options is plain.
* `read_plain`: where options must stand first, the first plain argument ends them.
-/

namespace Excerpt

/-- What an option is for. -/
inductive OptionKey where
  | verbose
  | debug
  | noDebug
  | version
  | help
  | output
  | root
  deriving DecidableEq, Repr

namespace OptionKey

/-- Whether a value belongs to the option. -/
def takesValue : OptionKey → Bool
  | .output | .root => true
  | _ => false

/-- The name behind two dashes. -/
def longName : OptionKey → String
  | .verbose => "verbose"
  | .debug => "debug"
  | .noDebug => "no-debug"
  | .version => "version"
  | .help => "help"
  | .output => "output"
  | .root => "code-root"

/-- The letter behind one dash. -/
def letter? : OptionKey → Option Char
  | .verbose => some 'v'
  | .output => some 'o'
  | _ => none

end OptionKey

/-- What was given, in order: options with their values, empty if they take none, and plain
arguments. -/
structure Arguments where
  options : List (OptionKey × Text) := []
  plain : List Text := []
  deriving DecidableEq, Repr

namespace Arguments

def addOptions (options : List (OptionKey × Text)) (args : Arguments) : Arguments :=
  { args with options := options ++ args.options }

def addPlain (arg : Text) (args : Arguments) : Arguments :=
  { args with plain := arg :: args.plain }

/-- Whether the option was given. -/
def has (args : Arguments) (key : OptionKey) : Bool := args.options.any (·.1 == key)

/-- The value that was given last. -/
def value? (args : Arguments) (key : OptionKey) : Option Text :=
  (args.options.reverse.find? (·.1 == key)).map (·.2)

/-- How often the option was given. -/
def count (args : Arguments) (key : OptionKey) : Nat := args.options.countP (·.1 == key)

/-- The end of the options. -/
def optionsEnd : Text := ['-', '-']

end Arguments

/-- The options that can be given, and whether they may stand behind plain arguments. -/
structure ArgumentGrammar where
  keys : List OptionKey
  interspersed : Bool

/-- What one argument gives: options that are complete, and at last one that waits for its
value. -/
structure OptionGroup where
  complete : List (OptionKey × Text) := []
  waiting : Option OptionKey := none

namespace ArgumentGrammar

/-- The option with the long name. -/
def ofLongName? (g : ArgumentGrammar) (name : Text) : Option OptionKey :=
  g.keys.find? fun key => name = '-' :: '-' :: key.longName.toList

/-- The option with the letter. -/
def ofLetter? (g : ArgumentGrammar) (c : Char) : Option OptionKey :=
  g.keys.find? fun key => key.letter? = some c

/-- Reads letters that stand together. The first option with a value takes the rest for it. -/
def readLetters (g : ArgumentGrammar) : Text → Option OptionGroup
  | [] => some {}
  | c :: rest =>
    match g.ofLetter? c with
    | none => none
    | some key =>
      if key.takesValue then
        if rest.isEmpty then some { waiting := some key } else some { complete := [(key, rest)] }
      else (readLetters g rest).map fun group =>
        { group with complete := (key, []) :: group.complete }

/-- An option that was named in full, and the value behind its name. -/
def readNamed (key : OptionKey) (value : Option Text) : Option OptionGroup :=
  match key.takesValue, value with
  | true, some value => some { complete := [(key, value)] }
  | true, none => some { waiting := some key }
  | false, some _ => none
  | false, none => some { complete := [(key, [])] }

/-- Reads one argument that begins with a dash. -/
def readOption (g : ArgumentGrammar) (arg : Text) : Option OptionGroup :=
  let (name, value) := match Text.cut '=' arg with
    | some (name, value) => (name, some value)
    | none => (arg, none)
  match g.ofLongName? name with
  | some key => readNamed key value
  | none => if Arguments.optionsEnd.isPrefixOf arg then none else g.readLetters (arg.drop 1)

/-- Whether the argument is read as options. -/
def isOption (arg : Text) : Bool := arg.head? = some '-' && 1 < arg.length

/-- Reads the arguments, unless an option is not known, lacks its value or has one that it does
not take. -/
def read (g : ArgumentGrammar) : List Text → Option Arguments
  | [] => some {}
  | arg :: rest =>
    if arg = Arguments.optionsEnd then some { plain := rest }
    else if isOption arg then
      match g.readOption arg with
      | none => none
      | some ⟨complete, none⟩ => (read g rest).map (·.addOptions complete)
      | some ⟨complete, some key⟩ =>
        match rest with
        | [] => none
        | value :: rest => (read g rest).map (·.addOptions (complete ++ [(key, value)]))
    else if g.interspersed then (read g rest).map (·.addPlain arg)
    else some { plain := arg :: rest }

theorem read_end (g : ArgumentGrammar) (rest : List Text) :
    g.read (Arguments.optionsEnd :: rest) = some { plain := rest } := by
  simp [read]

theorem read_plain {g : ArgumentGrammar} (h : g.interspersed = false) {arg : Text}
    (hPlain : isOption arg = false) (rest : List Text) :
    g.read (arg :: rest) = some { plain := arg :: rest } := by
  have hEnd : arg ≠ Arguments.optionsEnd := by
    intro hEq
    subst hEq
    simp [isOption, Arguments.optionsEnd] at hPlain
  simp [read, hEnd, hPlain, h]

end ArgumentGrammar

end Excerpt
