import Excerpt.Path
import Excerpt.Table
import Excerpt.Text.Blank
import Excerpt.Text.LowerCase

/-!
# Languages

A file has a language tag, which follows from the extension of its name, and a tag has a style of
comments. A table says which tag an extension stands for; extensions that it does not hold are
their own tags, with their case kept.

* `tagOf_of_lookup`, `tagOf_of_not_mem`: the table decides by the extension in lower case.
* `isComment_blank`: a blank line is no comment.
-/

namespace Excerpt

/-- Tags by extension, in lower case and without the dot; the first entry for an extension is
the only one. -/
abbrev LanguageTable := Table Text Text

namespace LanguageTable

/-- The table that is used if no other is given. -/
def standard : LanguageTable := [("py".toList, "python".toList)]

/-- The tag of a file. -/
def tagOf (table : LanguageTable) (filename : Text) : Text :=
  let extension := (Path.ofText filename).extension
  (table.lookup (Text.lower extension)).getD extension

theorem tagOf_of_lookup {table : LanguageTable} {filename tag : Text}
    (h : table.lookup (Text.lower (Path.ofText filename).extension) = some tag) :
    table.tagOf filename = tag := by
  simp [tagOf, h]

theorem tagOf_of_not_mem {table : LanguageTable} {filename : Text}
    (h : table.lookup (Text.lower (Path.ofText filename).extension) = none) :
    table.tagOf filename = (Path.ofText filename).extension := by
  simp [tagOf, h]

end LanguageTable

/-! ## Comments -/

/-- How comments are written: what a comment to the end of the line begins with, and what a
comment inside a line begins and ends with, empty if there is none. -/
structure CommentStyle where
  line : Text
  opening : Text := []
  closing : Text := []
  deriving DecidableEq, Repr

namespace CommentStyle

def slashes : CommentStyle := ⟨"//".toList, "/*".toList, "*/".toList⟩

def hash : CommentStyle := ⟨"#".toList, [], []⟩

def dashes : CommentStyle := ⟨"--".toList, "/*".toList, "*/".toList⟩

def longBrackets : CommentStyle := ⟨"--".toList, "--[[".toList, "]]".toList⟩

def braceDashes : CommentStyle := ⟨"--".toList, "\x7b-".toList, "-\x7d".toList⟩

/-- The tags, in lower case, whose comments begin with a hash. -/
def hashTags : List Text :=
  ["python", "py", "sh", "bash", "zsh", "rb", "ruby", "pl", "r", "yaml", "yml", "toml",
    "cmake"].map String.toList

/-- The style of a language tag, in any case. -/
def ofTag (tag : Text) : CommentStyle :=
  let tag := Text.lower tag
  if hashTags.contains tag then hash
  else if tag = "sql".toList then dashes
  else if tag = "lua".toList then longBrackets
  else if tag = "hs".toList then braceDashes
  else slashes

/-- Whether a comment can stand inside a line. -/
def hasBlocks (s : CommentStyle) : Bool := !s.opening.isEmpty

/-- A comment to the end of the line. -/
def toEnd (s : CommentStyle) (t : Text) : Text := s.line ++ t

/-- A comment inside a line. -/
def inside (s : CommentStyle) (t : Text) : Text := s.opening ++ t ++ s.closing

/-- Whether the line begins, behind its blanks, with a comment. -/
def isComment (s : CommentStyle) (line : Text) : Bool :=
  let code := Text.trimStart line
  !code.isEmpty && (s.line.isPrefixOf code || s.hasBlocks && s.opening.isPrefixOf code)

theorem isComment_blank {s : CommentStyle} {line : Text} (h : Text.trimStart line = []) :
    s.isComment line = false := by
  simp [isComment, h]

end CommentStyle

end Excerpt
