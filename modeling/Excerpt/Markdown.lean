import Excerpt.Document
import Excerpt.Markdown.Fence
import Excerpt.Settings

/-!
# Commands in Markdown

The lines of a Markdown text are expanded like those of a document, except that protected lines
are left alone if the settings ask for that; what replaces a command is given line by line. The
options of a Markdown text are set one by one, by whoever keeps them, and then read into settings,
the tags of languages on top of the standard ones.

* `expand_protected`: a protected line is given as it is.
* `OptionSetter.KeepsApart`: what is asked of whoever keeps options.
-/

namespace Excerpt.Markdown

/-- What replaces one line, in front of a listener. -/
def expandOne (sources : Sources) (listener : Listener) (isProtected : Bool) (line : Text) :
    Session (List Text) :=
  if isProtected || !isCommandLine line then pure [line]
  else do
    let text ← expandLine sources listener line
    pure (Text.splitOn '\n' text)

/-- The lines with their commands expanded, in front of a listener. -/
def expand (settings : Settings) (disk : Disk) (listener : Listener) (lines : List Text) :
    Session (List Text) := do
  let judged :=
    if settings.skipFences then Fence.protect none lines else lines.map (false, ·)
  let expanded ← judged.mapM fun (isProtected, line) =>
    expandOne ⟨disk, settings.root, settings.languages⟩ listener isProtected line
  pure expanded.flatten

theorem expand_protected (sources : Sources) (listener : Listener) (line : Text) :
    expandOne sources listener true line = pure [line] := by
  simp [expandOne]

/-! ## Options -/

/-- Why options cannot be read: one of them is refused, under a label and with a message, the table
is no record, or the settings are not accepted. -/
inductive OptionsError where
  | refused (label : String) (message : Text)
  | notRecord (typeName : String)
  | invalid (issues : List Issue)
  deriving DecidableEq, Repr

/-- The options of a Markdown text, each with the value that it has unless it is set. -/
structure Options where
  root : Datum := .text ['.']
  languages : Datum := .record []
  skipFences : Datum := .bool true

/-- Sets the option of a name. -/
abbrev OptionSetter := Options → Text → Datum → Except OptionsError Options

/-- Whether the options are kept apart: the table is stored as it is given, and no other option
looks at it or changes it. -/
structure OptionSetter.KeepsApart (set : OptionSetter) : Prop where
  languages (options : Options) (value : Datum) :
    set options Settings.languagesField value = .ok { options with languages := value }
  other {name : Text} (options : Options) (value table : Datum) :
    name ≠ Settings.languagesField →
    set { options with languages := table } name value =
      (set options name value).map fun options => { options with languages := table }

/-- What a datum that is no record is called. -/
def typeName : Datum → String
  | .null => "NoneType"
  | .bool _ => "bool"
  | .int _ => "int"
  | .text _ => "str"
  | .list _ => "list"
  | .record _ => "dict"

/-- The standard tags with the given ones on top of them; an extension that is spelled as a
standard one takes its place. -/
def mergeLanguages (given : Datum) : Except OptionsError Fields :=
  let standard : Fields := LanguageTable.standard.map fun (extension, tag) =>
    (extension, .text tag)
  if !given.isTruthy then .ok standard
  else match given with
    | .record fields =>
      .ok (standard.map (fun (extension, tag) =>
          (extension, (fields.lookup extension).getD tag)) ++
        fields.filter fun field => (standard.lookup field.1).isNone)
    | other => .error (.notRecord (typeName other))

/-- The settings that are meant by options. -/
def settingsOf (judge : Judge) (options : Options) : Except OptionsError Settings := do
  let languages ← mergeLanguages options.languages
  (Settings.ofFields judge
    (Settings.record options.root (.record languages) options.skipFences)).mapError .invalid

/-- Sets options one by one. -/
def setAll (set : OptionSetter) (options : Options) (given : Fields) :
    Except OptionsError Options :=
  given.foldlM (fun options option => set options option.1 option.2) options

/-- Reads the options of a Markdown text. -/
def readOptions (set : OptionSetter) (judge : Judge) (given : Fields) :
    Except OptionsError Settings := do
  let options ← setAll set {} given
  settingsOf judge options

end Excerpt.Markdown
