import Excerpt.Command.Options
import Excerpt.Render.Edit
import Excerpt.Render.Highlight
import Excerpt.Render.Indent

/-!
# Rendering

Every line of a block goes through the edits, then the highlights, then the options. Comment
lines are hidden only where no edit applies, and judged by what they are in the source. The marker
of a highlighted line stays in front of the indentation.

* `lines_of_empty`: a block without lines renders to no lines.
* `fence_eq`: a fence is its two marks around the text.
-/

namespace Excerpt

/-- All that rendering a block depends on. -/
structure Rendering where
  style : CommentStyle
  highlights : Highlights := {}
  edits : Edits := {}
  options : RenderOptions := {}

namespace Rendering

/-- The line after the edits; `none` if it is dropped. -/
def edited (r : Rendering) (block : CodeBlock) (number : Nat) (line : Text) :
    Except Fault (Option Text) :=
  match r.edits.firstMatch number with
  | none => .ok (if r.options.hideComments && r.style.isComment line then none else some line)
  | some edit => edit.apply line number block r.style

/-- A line that was not dropped, with its highlights and its indentation. -/
def finished (r : Rendering) (number : Nat) (line : Text) : Except Fault Text :=
  let (marker, line) := r.highlights.apply line number
  (shiftIndent line r.options.indent).map (marker ++ ·)

/-- One line of the block. -/
def line (r : Rendering) (block : CodeBlock) (number : Nat) (raw : Text) :
    Except Fault (Option Text) :=
  match r.edited block number raw with
  | .error fault => .error fault
  | .ok none => .ok none
  | .ok (some line) => (r.finished number line).map some

/-- The lines of the block. -/
def lines (r : Rendering) (block : CodeBlock) : Except Fault (List Text) :=
  match block.numbered.mapM fun (number, raw) => r.line block number raw with
  | .error fault => .error fault
  | .ok rendered => .ok (rendered.filterMap id)

/-- The lines, each with its end. -/
def text (r : Rendering) (block : CodeBlock) : Except Fault Text :=
  (r.lines block).map fun lines => lines.flatMap (· ++ ['\n'])

theorem lines_of_empty (r : Rendering) {block : CodeBlock} (h : block.lines = []) :
    r.lines block = .ok [] := by
  simp [lines, CodeBlock.numbered, h, pure, Except.pure]

end Rendering

/-- The mark that a fence begins and ends with. -/
def fenceMark : Text := ['\x60', '\x60', '\x60']

/-- The text between fences, the first with the language tag. -/
def fence (text tag : Text) : Text := fenceMark ++ tag ++ '\n' :: text ++ fenceMark

theorem fence_eq (text tag : Text) :
    fence text tag = (fenceMark ++ tag) ++ ['\n'] ++ text ++ fenceMark := by
  simp [fence]

end Excerpt
