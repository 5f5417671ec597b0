import Excerpt.Console.CommandLine
import Excerpt.Document

/-!
# What a run reaches

The paths that a run may read: those that its request names, and once the document can be read, the
files that its commands name. A disk that has these is all that the run needs to see.

* `ofRequest_version`: a run that only shows its version reaches nothing.
-/

namespace Excerpt.Reach

/-- The paths that a request names. -/
def ofRequest : Request → List Path
  | .inject document output root =>
    ([document, root] ++ output.toList).map Path.ofText
  | .deps document root => [document, root].map Path.ofText
  | .answered .. | .failed _ | .version => []

/-- The files that the commands of a document name, where they can be read. -/
def ofDocument (disk : Disk) (document root : Path) : List Path :=
  match Document.readLines disk document with
  | .error _ => []
  | .ok lines => lines.filterMap fun line =>
    match dependency? root line with
    | .ok path => path
    | .error _ => none

/-- The files that the document of a request leads to, together with its output if none is
named. -/
def behind (disk : Disk) : Request → List Path
  | .inject document _ root =>
    let document := disk.resolve (Path.ofText document)
    (Document.defaultOutput document).toOption.toList ++
      ofDocument disk document (Path.ofText root)
  | _ => []

theorem ofRequest_version : ofRequest .version = [] := rfl

end Excerpt.Reach
