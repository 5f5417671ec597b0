import Excerpt.Main.Style.Color
import Excerpt.Text.Blank
import Excerpt.Text.LowerCase

/-!
# Styles

A style is written in words: emphases, each turned on or, behind a word of negation, off, a colour
for the letters, one for the background, and the address of a link. The last word on a matter
counts. Every style has a normal form, in which two ways to write it agree; a text that is no style
is its own normal form but for capitals and the blanks around it.

* `normalForm_of_none`: the word for no style is its own normal form.
* `normalForm_of_no_words`: a blank text stands for no style.
* `ofWord?_name`: an emphasis is found under its name.
-/

namespace Excerpt

/-- What letters can be, in the order in which it is written. -/
inductive Emphasis where
  | bold | dim | italic | underline | blink | fastBlink | reverse | conceal | strike
  | doubleUnderline | frame | encircle | overline
  deriving DecidableEq, Repr

namespace Emphasis

def all : List Emphasis :=
  [.bold, .dim, .italic, .underline, .blink, .fastBlink, .reverse, .conceal, .strike,
    .doubleUnderline, .frame, .encircle, .overline]

/-- The names of an emphasis: the one that is written, and the short one if there is one. -/
def names : Emphasis → String × Option String
  | .bold => ("bold", some "b")
  | .dim => ("dim", some "d")
  | .italic => ("italic", some "i")
  | .underline => ("underline", some "u")
  | .blink => ("blink", none)
  | .fastBlink => ("blink2", none)
  | .reverse => ("reverse", some "r")
  | .conceal => ("conceal", some "c")
  | .strike => ("strike", some "s")
  | .doubleUnderline => ("underline2", some "uu")
  | .frame => ("frame", none)
  | .encircle => ("encircle", none)
  | .overline => ("overline", some "o")

def name (e : Emphasis) : Text := e.names.1.toList

def shortName? (e : Emphasis) : Option Text := e.names.2.map String.toList

/-- The emphasis of a name. -/
def ofWord? (word : Text) : Option Emphasis :=
  all.find? fun e => e.name == word || e.shortName? == some word

theorem ofWord?_name (e : Emphasis) : ofWord? e.name = some e := by
  cases e <;> decide

end Emphasis

/-- Why a text is no style, or cannot even be looked at. -/
inductive StyleError where
  | notStyle
  | color (e : ColorError)
  deriving DecidableEq, Repr

/-- A style. What has been said of emphases is kept with the last word first. -/
structure Style where
  emphases : List (Emphasis × Bool) := []
  color : Option Text := none
  background : Option Text := none
  link : Option Text := none
  deriving DecidableEq, Repr

namespace Style

/-! ## Writing -/

/-- An emphasis in words. -/
def emphasisText (e : Emphasis) (on : Bool) : Text :=
  if on then e.name else "not ".toList ++ e.name

/-- The parts of a style in the order in which they are written. -/
def parts (s : Style) : List Text :=
  (Emphasis.all.filterMap fun e => (s.emphases.lookup e).map (emphasisText e)) ++
    s.color.toList ++
    (s.background.map ("on ".toList ++ ·)).toList ++
    (s.link.map ("link ".toList ++ ·)).toList

/-- The word for no style. -/
def noneText : Text := "none".toList

/-- The style as it is written in its normal form. -/
def written (s : Style) : Text :=
  if s.parts.isEmpty then noneText else Text.join [' '] s.parts

/-! ## Reading -/

/-- What the next word is about, if the last one left that open. -/
inductive Awaited where
  | background
  | negated
  | link
  deriving DecidableEq, Repr

/-- The word that is a colour, in small letters. -/
def readColor (word : Text) : Except StyleError Text :=
  match Color.isColor (Text.lower word) with
  | .error e => .error (.color e)
  | .ok false => .error .notStyle
  | .ok true => .ok (Text.lower word)

/-- Reads one more word. -/
def take (state : Style × Option Awaited) (word : Text) :
    Except StyleError (Style × Option Awaited) :=
  match state with
  | (s, some .background) =>
    (readColor word).map fun color => ({ s with background := some color }, none)
  | (s, some .negated) =>
    match Emphasis.ofWord? word with
    | some e => .ok ({ s with emphases := (e, false) :: s.emphases }, none)
    | none => .error .notStyle
  | (s, some .link) => .ok ({ s with link := some word }, none)
  | (s, none) =>
    let small := Text.lower word
    if small = "on".toList then .ok (s, some .background)
    else if small = "not".toList then .ok (s, some .negated)
    else if small = "link".toList then .ok (s, some .link)
    else match Emphasis.ofWord? small with
      | some e => .ok ({ s with emphases := (e, true) :: s.emphases }, none)
      | none => (readColor small).map fun color => ({ s with color := some color }, none)

/-- Reads a style. -/
def read (t : Text) : Except StyleError Style :=
  if Text.trim t = noneText then .ok {}
  else match (Text.words t).foldlM take ({}, none) with
    | .ok (s, none) => .ok s
    | .ok (_, some _) => .error .notStyle
    | .error e => .error e

/-- The normal form of a text that may be a style. -/
def normalForm (t : Text) : Except ColorError Text :=
  match read t with
  | .ok s => .ok s.written
  | .error .notStyle => .ok (Text.lower (Text.trim t))
  | .error (.color e) => .error e

/-! ## Laws -/

theorem written_empty : ({} : Style).written = noneText := rfl

theorem normalForm_of_none {t : Text} (h : Text.trim t = noneText) :
    normalForm t = .ok noneText := by
  simp [normalForm, read, h, written_empty]

theorem read_of_no_words {t : Text} (h : Text.words t = []) : read t = .ok {} := by
  unfold read
  split
  · rfl
  · rw [h]
    rfl

theorem normalForm_of_no_words {t : Text} (h : Text.words t = []) :
    normalForm t = .ok noneText := by
  simp [normalForm, read_of_no_words h, written_empty]

end Style

end Excerpt
