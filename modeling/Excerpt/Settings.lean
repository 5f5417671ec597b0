import Excerpt.Datum
import Excerpt.Language

/-!
# Settings

The settings of the program: the path at which file names begin, the table of languages, and
whether command lines inside fenced code are left alone. They are given as a record of data, and
whoever judges the record says what is wrong with it or what it gives, every field with the type
that it should have. What is not given has its standard value, and the extensions of a table are
brought into their normal form.

* `Settings.ofFields`: the settings that a record means, or all that is wrong with it.
* `Judge.TakesTexts`: what is asked of whoever judges tables.
-/

namespace Excerpt

structure Settings where
  root : Path := ⟨.relative, []⟩
  languages : LanguageTable := .standard
  skipFences : Bool := true

namespace LanguageTable

/-- An extension in lower case and without the dots in front of it. -/
def normalForm (extension : Text) : Text :=
  Text.lower (extension.dropWhile (· == '.'))

/-- The table by normal forms; of entries with the same one the last wins. -/
def normalise (entries : List (Text × Text)) : LanguageTable :=
  entries.foldl (fun table entry => table.put (normalForm entry.1) entry.2) []

/-- The entries as fields of a record. -/
def fields (entries : List (Text × Text)) : Fields :=
  entries.map fun entry => (entry.1, .text entry.2)

end LanguageTable

/-- What is wrong with a field, under a label; the names on the way to it have dots between
them. -/
structure Issue where
  label : String
  field : Text
  deriving DecidableEq, Repr

/-- What is given for the settings, once it has been judged. -/
structure GivenSettings where
  root : Option Path := none
  languages : Option (List (Text × Text)) := none
  skipFences : Option Bool := none

/-- Judges a record: all that is wrong with it, or what it gives. -/
abbrev Judge := Fields → Except (List Issue) GivenSettings

namespace Settings

def rootField : Text := "code_root".toList

def languagesField : Text := "languages".toList

def skipFencesField : Text := "skip_fences".toList

/-- The fields that settings have; no other field may be given. -/
def knownFields : List Text := [rootField, languagesField, skipFencesField]

/-- The record of all fields. -/
def record (root languages skipFences : Datum) : Fields :=
  [(rootField, root), (languagesField, languages), (skipFencesField, skipFences)]

/-- The settings behind what is given. -/
def ofGiven (given : GivenSettings) : Settings :=
  let standard : Settings := {}
  { root := given.root.getD standard.root
    languages := (given.languages.map LanguageTable.normalise).getD standard.languages
    skipFences := given.skipFences.getD standard.skipFences }

/-- Reads settings. -/
def ofFields (judge : Judge) (fields : Fields) : Except (List Issue) Settings :=
  (judge fields).map ofGiven

end Settings

/-- Whether the judge takes a record of texts as it is, and each field apart from the others: where
all fields are accepted with one table, they are accepted with any other, and give the same
besides. -/
structure Judge.TakesTexts (judge : Judge) : Prop where
  languages {root skipFences : Datum} {entries : List (Text × Text)} {given : GivenSettings} :
    judge (Settings.record root (.record (LanguageTable.fields entries)) skipFences) = .ok given →
    ∀ entries' : List (Text × Text),
      judge (Settings.record root (.record (LanguageTable.fields entries')) skipFences) =
        .ok { given with languages := some entries' }

end Excerpt
