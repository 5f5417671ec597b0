import Excerpt.Proofs.Insertion.Phases

/-!
# The events of a command

A command line that is kept tells why, as a warning, and right behind it that it was skipped. One
that is replaced tells what was inserted. No command line tells more than one event, and a command
that is not replaced and not kept either tells none, unless its block cannot be rendered. What a
command is replaced by begins with a fence, so it is never the command itself.

* `Sources.run_cases`: the runs of a command line in front of a recorder.
* `Insertion.fenced_ne`: no command is replaced by itself.
* `filter_isEvent_of_ok`: the one event of a command line that becomes something.
* `isHeralded_run`, `isHeralded_flatMap`: a skipped line is told right behind its warning.
-/

namespace Excerpt

/-! ## Events -/

theorem Diagnostic.insertedName_ne_skippedName : insertedName ≠ skippedName := by decide

namespace Notice

/-- The name of the event that a notice is, if it is one. -/
def eventName? (n : Notice) : Option Text :=
  match Diagnostic.ofNotice? n with
  | some (.event name _) => some name
  | _ => none

/-- Whether a notice is an event. -/
def isEvent (n : Notice) : Bool := n.eventName?.isSome

/-- Whether a notice is an event about the given line. -/
def IsEventOf (line : Text) : Notice → Prop
  | .inserted source _ => Command.targetName line = .ok source
  | .skipped about _ => about = line
  | _ => False

@[simp] theorem eventName?_inserted (source : Text) (range : LineRange) :
    (Notice.inserted source range).eventName? = some Diagnostic.insertedName := rfl

/-- An event about a line is of one of two kinds. -/
theorem eventName?_of_isEventOf {line : Text} {n : Notice} (h : n.IsEventOf line) :
    n.eventName? = some Diagnostic.insertedName ∨ n.eventName? = some Diagnostic.skippedName := by
  cases n with
  | inserted => exact .inl rfl
  | skipped => exact .inr rfl
  | editWithoutKind | unknownOption | notProcessed | located | processed => exact h.elim

theorem eventName?_of_isRemark {n : Notice} (h : Insertion.IsRemark n) : n.eventName? = none := by
  cases n with
  | editWithoutKind | unknownOption | located => rfl
  | notProcessed | inserted | skipped | processed => exact h.elim

theorem filter_isEvent_remarks {remarks : List Notice} (h : ∀ n ∈ remarks, Insertion.IsRemark n) :
    remarks.filter isEvent = [] := by
  refine List.filter_eq_nil_iff.mpr fun n hn => ?_
  simp [isEvent, eventName?_of_isRemark (h n hn)]

end Notice

/-! ## Runs of a command line -/

namespace Insertion

variable {sources : Sources} {line text : Text}

/-- The source of an insertion is the file that its command names. -/
theorem source_of_build {insertion : Insertion} (h : (build sources line).outcome = .ok insertion) :
    Command.targetName line = .ok insertion.source := by
  obtain ⟨c, wanted, block, hParse, rfl⟩ := exists_assemble_of_build h
  exact Command.targetName_of_parse hParse

/-- A fence does not begin as a command does. -/
theorem fenced_ne {insertion : Insertion} (hText : insertion.fenced = .ok text)
    (hLine : isCommandLine line = true) : text ≠ line := by
  rintro rfl
  obtain ⟨inner, -, rfl⟩ := map_eq_ok_iff.mp hText
  revert hLine
  simp [isCommandLine, CommandKind.ofLine?, CommandKind.keyword, fence, fenceMark]

end Insertion

/-- Whether the recorder takes the announcement of the insertion. -/
def Insertion.IsHeard (recorder : Recorder) (i : Insertion) : Prop :=
  recorder.refusal? (.inserted i.source i.block.range) = none

/-- The runs of a command line: it is kept because something is not found, it ends with the fault of
its command, its announcement is refused, or its block is announced and rendered. -/
inductive Sources.Run (sources : Sources) (recorder : Recorder) (line : Text) : Journal Text → Prop
  | kept {keyword : Text} {fault : Fault}
      (hBuild : (Insertion.build sources line).outcome = .error fault)
      (hKind : fault.kind = .notFound) :
      Run sources recorder line ⟨(Insertion.build sources line).notices ++
        [.notProcessed keyword line fault, .skipped line fault.message.toList], .ok line⟩
  | failed {fault : Fault} (hBuild : (Insertion.build sources line).outcome = .error fault)
      (hKind : fault.kind ≠ .notFound) :
      Run sources recorder line ⟨(Insertion.build sources line).notices, .error fault⟩
  | unheard {insertion : Insertion} {fault : Fault}
      (hBuild : (Insertion.build sources line).outcome = .ok insertion)
      (hRefused : recorder.refusal? (.inserted insertion.source insertion.block.range) =
        some fault) :
      Run sources recorder line ⟨(Insertion.build sources line).notices, .error fault⟩
  | announced {insertion : Insertion}
      (hBuild : (Insertion.build sources line).outcome = .ok insertion)
      (hHeard : insertion.IsHeard recorder) :
      Run sources recorder line ⟨(Insertion.build sources line).notices ++
        [.inserted insertion.source insertion.block.range], insertion.fenced⟩

section

variable {sources : Sources} {recorder : Recorder} {line text : Text}

theorem Sources.run_cases (sources : Sources) (recorder : Recorder)
    (hLine : isCommandLine line = true) :
    Run sources recorder line (sources.run recorder line) := by
  obtain ⟨kind, hKind⟩ := Option.isSome_iff_exists.mp hLine
  rw [run_of_command hKind]
  cases hBuild : (Insertion.build sources line).outcome with
  | error fault =>
    by_cases hFound : fault.kind = .notFound
    · rw [answer_kept kind line hFound]
      exact .kept hBuild hFound
    · rw [answer, if_neg hFound]
      simpa [Journal.heardBy, Listener.hear, Journal.fail] using Run.failed hBuild hFound
  | ok insertion =>
    rw [answer, Journal.heardBy_singleton, Recorder.refusal?_told]
    cases hRefused : recorder.refusal? (.inserted insertion.source insertion.block.range) with
    | none => exact .announced hBuild hRefused
    | some fault => simpa [Journal.fail] using Run.unheard hBuild hRefused

/-- A command line that becomes something tells one event, and it is kept exactly if that event says
so. -/
theorem filter_isEvent_of_ok (hLine : isCommandLine line = true)
    (hText : (sources.run recorder line).outcome = .ok text) :
    ∃ event, (sources.run recorder line).notices.filter Notice.isEvent = [event] ∧
      event.IsEventOf line ∧
      (text = line ↔ event.eventName? = some Diagnostic.skippedName) := by
  have hRemarks := Notice.filter_isEvent_remarks (Insertion.tells_build sources line)
  have hRun := sources.run_cases recorder hLine
  generalize sources.run recorder line = run at hRun hText ⊢
  cases hRun with
  | @kept keyword fault hBuild hKind =>
    cases hText
    refine ⟨.skipped line fault.message.toList, ?_, rfl, iff_of_true rfl rfl⟩
    rw [List.filter_append, hRemarks]
    rfl
  | failed hBuild hKind => cases hText
  | unheard hBuild hRefused => cases hText
  | @announced insertion hBuild hHeard =>
    have hName : some Diagnostic.insertedName ≠ some Diagnostic.skippedName :=
      fun h => Diagnostic.insertedName_ne_skippedName (Option.some.inj h)
    refine ⟨.inserted insertion.source insertion.block.range, ?_,
      Insertion.source_of_build hBuild, iff_of_false (Insertion.fenced_ne hText hLine) hName⟩
    rw [List.filter_append, hRemarks]
    rfl

/-! ## Warnings in front of events -/

/-- Whether every line that is said to be skipped was warned about right before, with the fault
that is given as the reason. -/
def IsHeralded (notices : List Notice) : Prop :=
  ∀ before about reason behind, notices = before ++ .skipped about reason :: behind →
    ∃ keyword fault, before.getLast? = some (.notProcessed keyword about fault) ∧
      fault.kind = .notFound ∧ reason = fault.message.toList

theorem isHeralded_of_no_skip {notices : List Notice}
    (h : ∀ n ∈ notices, n.eventName? ≠ some Diagnostic.skippedName) : IsHeralded notices := by
  rintro before about reason behind rfl
  exact absurd rfl (h (.skipped about reason) (by simp))

theorem IsHeralded.append {front back : List Notice} (hFront : IsHeralded front)
    (hBack : IsHeralded back) : IsHeralded (front ++ back) := by
  intro before about reason behind h
  rcases List.append_eq_append_iff.mp h with ⟨middle, rfl, hMiddle⟩ | ⟨middle, rfl, hMiddle⟩
  · obtain ⟨keyword, fault, hLast, hFault⟩ := hBack middle about reason behind hMiddle
    refine ⟨keyword, fault, ?_, hFault⟩
    rw [List.getLast?_append, hLast]
    rfl
  · cases middle with
    | nil =>
      obtain ⟨keyword, fault, hLast, -⟩ := hBack [] about reason behind hMiddle.symm
      cases hLast
    | cons n rest =>
      rw [List.cons_append, List.cons.injEq] at hMiddle
      obtain ⟨rfl, -⟩ := hMiddle
      exact hFront before about reason rest rfl

theorem isHeralded_flatMap {α : Type} {f : α → List Notice} {xs : List α}
    (h : ∀ a ∈ xs, IsHeralded (f a)) : IsHeralded (xs.flatMap f) := by
  induction xs with
  | nil => exact isHeralded_of_no_skip fun n hn => by cases hn
  | cons a rest ih =>
    rw [List.flatMap_cons]
    exact (h a List.mem_cons_self).append (ih fun b hb => h b (List.mem_cons_of_mem _ hb))

theorem isHeralded_pair {keyword : Text} {fault : Fault} (h : fault.kind = .notFound) :
    IsHeralded [.notProcessed keyword line fault, .skipped line fault.message.toList] := by
  intro before about reason behind hSplit
  rcases before with _ | ⟨first, _ | ⟨second, rest⟩⟩
  · cases hSplit
  · cases hSplit
    exact ⟨keyword, fault, rfl, h, rfl⟩
  · simp at hSplit

theorem isHeralded_run (sources : Sources) (recorder : Recorder) (line : Text) :
    IsHeralded (sources.run recorder line).notices := by
  have hRemarks : IsHeralded (Insertion.build sources line).notices := by
    refine isHeralded_of_no_skip fun n hn => ?_
    rw [Notice.eventName?_of_isRemark (Insertion.tells_build sources line n hn)]
    exact nofun
  cases hLine : isCommandLine line with
  | false =>
    rw [sources.run_of_not_command recorder hLine]
    exact isHeralded_of_no_skip fun n hn => by cases hn
  | true =>
    have hRun := sources.run_cases recorder hLine
    generalize sources.run recorder line = run at hRun ⊢
    cases hRun with
    | kept hBuild hKind => exact hRemarks.append (isHeralded_pair hKind)
    | failed hBuild hKind => exact hRemarks
    | unheard hBuild hRefused => exact hRemarks
    | announced hBuild hHeard =>
      refine hRemarks.append (isHeralded_of_no_skip fun n hn => ?_)
      rw [List.mem_singleton.mp hn, Notice.eventName?_inserted]
      exact fun h => Diagnostic.insertedName_ne_skippedName (Option.some.inj h)

end

end Excerpt
