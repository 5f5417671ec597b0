import Excerpt.Console.Message

/-!
# Events that are recorded and consumed

A console is called in any order: to record an event, to tell a diagnostic on some terminal, which
records it if it is an event, to become more or less talkative, or to hand out what is stored under
a name. A call changes what is stored under one name at most. What a history of calls hands out
under a name, and behind it what is stored under it at the end, is what was stored at the beginning
and then what was recorded, in order.

* `Console.recorded_perform_of_ne`: a call that is about another name.
* `Console.handed_perform`: one call, by what it hands out and what it leaves.
* `Console.handed_performAll`: a history of calls.
* `Console.events_accounted`: the history of a console that stores nothing at first.
-/

namespace Excerpt

namespace Console

variable {console : Console} {name : Text}

/-! ## Calls -/

/-- A call on a console. -/
inductive Call where
  | record (name : Text) (fields : Fields)
  | tell (terminal : Terminal) (diagnostic : Diagnostic)
  | configure (verbosity : Option Int) (tracebacks : Option Bool)
  | consume (name : Text)

namespace Call

/-- The event that a call records, if it records one. -/
def event? : Call → Option (Text × Fields)
  | .record name fields | .tell _ (.event name fields) => some (name, fields)
  | _ => none

/-- The name under which a call records or consumes. -/
def name? : Call → Option Text
  | .consume name => some name
  | call => call.event?.map Prod.fst

end Call

/-- What stands under a name, in order. -/
def under {α : Type} (name : Text) (named : List (Text × α)) : List α :=
  named.filterMap fun entry => if entry.1 = name then some entry.2 else none

theorem under_append {α : Type} (name : Text) (front back : List (Text × α)) :
    under name (front ++ back) = under name front ++ under name back :=
  List.filterMap_append

/-- The console behind a call, and what was handed out under which name. -/
def perform (console : Console) : Call → Console × List (Text × List Fields)
  | .record name fields => (console.record name fields, [])
  | .tell terminal diagnostic => ((emit terminal console diagnostic).1, [])
  | .configure verbosity tracebacks => (console.configure verbosity tracebacks, [])
  | .consume name => ((console.consume name).2, [(name, (console.consume name).1)])

/-- The console behind calls, and what was handed out by them, in order. -/
def performAll (console : Console) : List Call → Console × List (Text × List Fields)
  | [] => (console, [])
  | call :: rest =>
    let (next, first) := console.perform call
    let (last, more) := performAll next rest
    (last, first ++ more)

/-- A call that is about another name leaves what is stored under a name. -/
theorem recorded_perform_of_ne {call : Call} (h : call.name? ≠ some name) :
    (console.perform call).1.recorded name = console.recorded name := by
  cases call with
  | record other fields =>
    exact recorded_record_of_ne console (fun hEq => h (congrArg some hEq.symm)) fields
  | tell terminal diagnostic =>
    cases diagnostic with
    | event other fields =>
      exact recorded_record_of_ne console (fun hEq => h (congrArg some hEq.symm)) fields
    | warning | error => rfl
  | configure verbosity tracebacks => rfl
  | consume other =>
    exact recorded_consume_of_ne console fun hEq => h (congrArg some hEq.symm)

theorem handed_record (console : Console) (name other : Text) (fields : Fields) :
    (console.record other fields).recorded name =
      console.recorded name ++ under name [(other, fields)] := by
  by_cases h : other = name
  · rw [h, recorded_record_self]
    simp [under]
  · rw [recorded_record_of_ne console (Ne.symm h)]
    simp [under, h]

theorem handed_consume (console : Console) (name other : Text) :
    (under name [(other, (console.consume other).1)]).flatten ++
        (console.consume other).2.recorded name =
      console.recorded name := by
  by_cases h : other = name
  · rw [h, recorded_consume_self]
    simp [under, consume]
  · rw [recorded_consume_of_ne console (Ne.symm h)]
    simp [under, h]

/-- What a call hands out under a name and what it leaves there is what was there and what it
records. -/
theorem handed_perform (console : Console) (call : Call) (name : Text) :
    (under name (console.perform call).2).flatten ++ (console.perform call).1.recorded name =
      console.recorded name ++ under name call.event?.toList := by
  cases call with
  | record other fields => exact handed_record console name other fields
  | tell terminal diagnostic =>
    cases diagnostic with
    | event other fields => exact handed_record console name other fields
    | warning | error => exact (List.append_nil _).symm
  | configure verbosity tracebacks => exact (List.append_nil _).symm
  | consume other => exact (handed_consume console name other).trans (List.append_nil _).symm

theorem handed_performAll (console : Console) (calls : List Call) (name : Text) :
    (under name (console.performAll calls).2).flatten ++
        (console.performAll calls).1.recorded name =
      console.recorded name ++ under name (calls.filterMap Call.event?) := by
  induction calls generalizing console with
  | nil => exact (List.append_nil _).symm
  | cons call rest ih =>
    have hEvents : (call :: rest).filterMap Call.event? =
        call.event?.toList ++ rest.filterMap Call.event? := by
      cases h : call.event? <;> simp [h]
    change (under name ((console.perform call).2 ++
        ((console.perform call).1.performAll rest).2)).flatten ++
      ((console.perform call).1.performAll rest).1.recorded name = _
    rw [under_append, List.flatten_append, List.append_assoc, ih, ← List.append_assoc,
      handed_perform, List.append_assoc, hEvents, under_append]

/-- A console that stores nothing at first hands out and keeps under a name what was recorded under
it, in order, and no call about one name touches another. -/
theorem events_accounted (hEmpty : console.events = []) (calls : List Call) (name : Text) :
    (under name (console.performAll calls).2).flatten ++
        (console.performAll calls).1.recorded name =
      under name (calls.filterMap Call.event?) ∧
    ∀ (reached : Console) (call : Call), call.name? ≠ some name →
      (reached.perform call).1.recorded name = reached.recorded name := by
  have hNone : console.recorded name = [] := by rw [recorded, hEmpty]; rfl
  refine ⟨?_, fun reached call => recorded_perform_of_ne⟩
  rw [handed_performAll, hNone, List.nil_append]

/-- Events under two names, recorded and told, loudly and not, and consumed in between. -/
theorem events_accounted_interleaved :
    ∃ (console : Console) (calls : List Call) (name other : Text) (first second third : Fields),
      console.events = [] ∧ name ≠ other ∧
      under name (console.performAll calls).2 = [[first, second], []] ∧
      (console.performAll calls).1.recorded name = [third] ∧
      under name (calls.filterMap Call.event?) = [first, second, third] ∧
      ((console.performAll calls).1.perform (.consume other)).1.recorded name = [third] := by
  let first : Fields := [("x".toList, .int 1)]
  let second : Fields := [("x".toList, .int 2)]
  let third : Fields := [("x".toList, .int 3)]
  let calls : List Call := [.record "a".toList first, .configure (some 1) none,
    .tell .plain (.event "b".toList first), .tell .plain (.event "a".toList second),
    .consume "a".toList, .consume "a".toList, .record "b".toList second,
    .record "a".toList third]
  have hHanded : under "a".toList (({} : Console).performAll calls).2 = [[first, second], []] := by
    rfl
  have hKept : (({} : Console).performAll calls).1.recorded "a".toList = [third] := by rfl
  have hEmpty : ({} : Console).events = [] := rfl
  obtain ⟨hAll, hOthers⟩ := events_accounted hEmpty calls "a".toList
  refine ⟨{}, calls, "a".toList, "b".toList, first, second, third, hEmpty, by decide, hHanded,
    hKept, ?_, ?_⟩
  · rw [← hAll, hHanded, hKept]
    rfl
  · rw [hOthers _ _ (by decide), hKept]

end Console

end Excerpt
