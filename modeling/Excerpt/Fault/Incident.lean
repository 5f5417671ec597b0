import Excerpt.Fault
import Excerpt.Text.Blank
import Excerpt.Text.Lines

/-!
# Incidents

A failure as it is shown: a label, a text, and the failures that it points at, by their positions
in a list. The links may run in a circle. A walk follows the cause of a failure, or else its
context, and takes no failure twice.

* `walk_nodup`: no failure is visited twice.
* `walk_subset`: only failures of the list are visited.
* `messages_ne_nil`: no message is empty.
-/

namespace Excerpt

/-- A failure and the positions of those it points at. -/
structure Incident where
  label : Text
  text : Text
  cause : Option Nat := none
  context : Option Nat := none
  deriving DecidableEq, Repr

/-- Failures that point at each other by position. -/
abbrev Incidents := List Incident

namespace Incidents

/-- The failure that is looked at behind the given one: its cause if there is one, and otherwise its
context. What counts is that it is there; a failure that calls itself empty is not passed over. -/
def next? (incidents : Incidents) (i : Nat) : Option Nat :=
  incidents[i]?.bind fun incident => incident.cause <|> incident.context

/-- The positions that are visited from a start, among those not visited before. -/
def walkFrom (incidents : Incidents) (unvisited : List Nat) (start : Option Nat) : List Nat :=
  match start with
  | none => []
  | some i =>
    if i ∈ unvisited then i :: walkFrom incidents (unvisited.erase i) (incidents.next? i) else []
termination_by unvisited.length
decreasing_by
  rename_i h
  have := List.length_erase_of_mem h
  have := List.length_pos_of_mem h
  omega

/-- The positions that are visited from a start. -/
def walk (incidents : Incidents) (start : Option Nat) : List Nat :=
  walkFrom incidents (List.range incidents.length) start

/-- The first line of a text, trimmed, unless the text is blank. -/
def firstLine? (t : Text) : Option Text :=
  match Text.lines isDocumentBreak (Text.trim t) with
  | [] => none
  | line :: _ => if (Text.trim line).isEmpty then none else some (Text.trim line)

/-- The messages of a failure and of those behind it. -/
def messages (incidents : Incidents) (start : Nat) : List Text :=
  (incidents.walk (some start)).filterMap fun i =>
    incidents[i]?.bind fun incident => firstLine? incident.text

/-- The most special message: the last one. -/
def hint? (incidents : Incidents) (start : Nat) : Option Text :=
  (incidents.messages start).getLast?

/-- The failures behind the given one. -/
def causes (incidents : Incidents) (start : Nat) : List Incident :=
  (incidents.walk (incidents.next? start)).filterMap fun i => incidents[i]?

/-! ## Laws -/

theorem walkFrom_subset (incidents : Incidents) (unvisited : List Nat) (start : Option Nat) :
    ∀ i ∈ walkFrom incidents unvisited start, i ∈ unvisited := by
  induction unvisited, start using walkFrom.induct incidents with
  | case1 unvisited => simp [walkFrom]
  | case2 unvisited i h ih =>
    intro j hj
    rw [walkFrom, if_pos h, List.mem_cons] at hj
    rcases hj with rfl | hj
    · exact h
    · exact List.mem_of_mem_erase (ih j hj)
  | case3 unvisited i h =>
    simp [walkFrom, h]

theorem walkFrom_nodup (incidents : Incidents) {unvisited : List Nat} (hn : unvisited.Nodup)
    (start : Option Nat) : (walkFrom incidents unvisited start).Nodup := by
  induction unvisited, start using walkFrom.induct incidents with
  | case1 unvisited => simp [walkFrom]
  | case2 unvisited i h ih =>
    rw [walkFrom, if_pos h, List.nodup_cons]
    refine ⟨fun hm => ?_, ih (hn.erase i)⟩
    have hErase := walkFrom_subset incidents _ _ i hm
    exact hn.not_mem_erase hErase
  | case3 unvisited i h =>
    simp [walkFrom, h]

theorem walk_nodup (incidents : Incidents) (start : Option Nat) :
    (incidents.walk start).Nodup :=
  walkFrom_nodup incidents List.nodup_range start

theorem walk_subset (incidents : Incidents) (start : Option Nat) :
    ∀ i ∈ incidents.walk start, i < incidents.length := by
  intro i hi
  exact List.mem_range.mp (walkFrom_subset incidents _ _ i hi)

theorem messages_ne_nil (incidents : Incidents) (start : Nat) :
    ∀ m ∈ incidents.messages start, m ≠ [] := by
  intro m hm
  obtain ⟨i, -, hi⟩ := List.mem_filterMap.mp hm
  obtain ⟨incident, -, hLine⟩ := Option.bind_eq_some_iff.mp hi
  unfold firstLine? at hLine
  split at hLine
  · cases hLine
  · split at hLine
    · cases hLine
    · rename_i hne
      cases hLine
      simpa using hne

end Incidents

namespace Incident

/-- The label of a failure to find a key. -/
def keyLabel : Text := "KeyError".toList

/-- A failure of the given kind; the text of a missing key is the key between quotes. -/
def ofLabel (label text : Text) : Incident :=
  ⟨label, if label = keyLabel then text.quoted else text, none, none⟩

end Incident

/-- A fault and what it was raised for. -/
def Fault.incidents (f : Fault) : Incidents :=
  let label := f.kind.label.toList
  match f.cause? with
  | none => [⟨label, f.message.toList, none, none⟩]
  | some (causeLabel, causeText) =>
    [⟨label, f.message.toList, some 1, none⟩, ⟨causeLabel.toList, causeText.toList, none, none⟩]

end Excerpt
