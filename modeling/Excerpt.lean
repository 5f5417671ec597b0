import Excerpt.Diagnostic.Log
import Excerpt.Main
import Excerpt.Proofs.Command.Options
import Excerpt.Proofs.Command.Pieces
import Excerpt.Proofs.Console.Events
import Excerpt.Proofs.Document.Dependencies
import Excerpt.Proofs.Document.Preservation
import Excerpt.Proofs.Fault.Incident
import Excerpt.Proofs.Insertion.Limits
import Excerpt.Proofs.Insertion.Relative
import Excerpt.Proofs.Insertion.Verbatim
import Excerpt.Proofs.Language.Comments
import Excerpt.Proofs.Language.Tags
import Excerpt.Proofs.Markdown.Document
import Excerpt.Proofs.Markdown.Idempotence
import Excerpt.Proofs.Program.Injection
import Excerpt.Proofs.Program.Verbosity
import Excerpt.Proofs.Render.Columns
import Excerpt.Proofs.Render.Indent
import Excerpt.Proofs.Render.Parts
import Excerpt.Proofs.Render.Ranges
import Excerpt.Proofs.Render.Reorder
import Excerpt.Proofs.Source.First
import Excerpt.Proofs.Source.Window
