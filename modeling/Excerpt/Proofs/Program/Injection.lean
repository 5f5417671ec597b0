import Excerpt.Main.CommandLine
import Excerpt.Program
import Excerpt.Proofs.Disk.Resolution
import Excerpt.Proofs.Document.Output

/-!
# What a run leaves alone

The only file that a run writes is the output of its request, which is never the document; that is
so for every request, also if the output breaks off while it is written. The output is compared with
the document by the path that it resolves to, but it is written where its own path leads. A path
that can be followed leads to what it resolves to, so the comparison is good enough.

* `disk_follow`: what follows from a request leaves the disk as it was, or with the output put down.
* `Writes.target_ne`: no output that passes the comparison is written in place of the document.
* `run_keeps_document`: the document is as it was, and so is all but the output.
-/

namespace Excerpt

/-- A document that is processed leaves the disk as it was, or its output is put down. -/
theorem Document.disk_process (sources : Sources) (input output : Path) (listener : Listener) :
    (process sources input output listener).1 = sources.disk ∨
      sources.disk.Replaces output (process sources input output listener).1 := by
  obtain ⟨fault, -, hProcess⟩ | ⟨lines, expanded, -, hProcess⟩ :=
    process_cases sources input output listener
  · rw [hProcess]
    exact .inl rfl
  · rw [hProcess]
    unfold writeOut
    split
    · exact .inl rfl
    · rename_i hWrite
      exact .inr (Disk.replaces_of_broken hWrite)
    · rename_i hWrite
      exact .inr (Disk.replaces_of_write hWrite)

/-- The output that is not given has a name of its own beside the document. -/
theorem Document.defaultOutput_eq_ok {input output : Path}
    (h : defaultOutput input = .ok output) :
    ∃ name, name ≠ Path.here ∧ output = input.replaceName name := by
  unfold defaultOutput at h
  split at h
  · dsimp only at h
    split at h
    · rename_i hName
      refine ⟨_, ?_, (Except.ok.inj h).symm⟩
      intro hHere
      rw [hHere] at hName
      exact absurd hName (by decide)
    · cases h
  · split at h
    · cases h
    · exact ⟨indexName, by decide, (Except.ok.inj h).symm⟩

namespace Program

variable {disk : Disk} {document output : Path} {given : Option Text}

/-- The output of a request for a document: the path that is given, or else the one beside it. -/
def outputPath (document : Path) (given : Option Text) : Except Fault Path :=
  (given.map Path.ofText).elim (Document.defaultOutput document) .ok

/-! ## What is written -/

theorem disk_process (terminal : Terminal) (console : Console) (disk : Disk)
    (input output root : Path) :
    (process terminal console disk input output root).disk = disk ∨
      disk.Replaces output (process terminal console disk input output root).disk := by
  have hDocument := Document.disk_process ⟨disk, root, .standard⟩ input output .keeping
  unfold process
  generalize Document.process ⟨disk, root, .standard⟩ input output = processed at hDocument ⊢
  obtain ⟨changed, journal⟩ := processed
  dsimp only at hDocument ⊢
  generalize tell terminal { console := console } journal.notices = told
  obtain ⟨t, problem⟩ := told
  cases problem with
  | some e => exact .inl rfl
  | none =>
    cases journal.outcome with
    | error fault => exact hDocument
    | ok report =>
      dsimp only [Telling.finish]
      split <;> exact hDocument

/-- Whether one file is put down, which is the output of the request for a document and passes for
another path than the document. -/
structure Writes (disk after : Disk) (document : Path) (given : Option Text) (output : Path) :
    Prop where
  output_eq : outputPath document given = .ok output
  resolve_ne : disk.resolve output ≠ document
  replaces : disk.Replaces output after

theorem inject_eq (terminal : Terminal) (console : Console) (disk : Disk) (document : Path)
    (given : Option Text) (root : Path) :
    inject terminal console disk document (given.map Path.ofText) root =
      match outputPath document given with
      | .error fault => failWith terminal console disk fault
      | .ok output =>
        if output.toText.contains '\x00' then failWith terminal console disk .nullCharacter
        else if disk.resolve output = document then refuse terminal console disk overwrites
        else process terminal console disk document output root := rfl

theorem disk_inject (terminal : Terminal) (console : Console) (disk : Disk) (document : Path)
    (given : Option Text) (root : Path) :
    (inject terminal console disk document (given.map Path.ofText) root).disk = disk ∨
      ∃ output,
        Writes disk (inject terminal console disk document (given.map Path.ofText) root).disk
          document given output := by
  rw [inject_eq]
  cases hOutput : outputPath document given with
  | error fault => exact .inl rfl
  | ok output =>
    dsimp only
    split
    · exact .inl rfl
    · split
      · exact .inl rfl
      · rename_i hNe
        refine (disk_process terminal console disk document output root).imp_right fun hWrite => ?_
        exact ⟨output, hOutput, hNe, hWrite⟩

/-- What follows from a request leaves the disk as it was, or the request is for a document and its
output is put down. -/
theorem disk_follow (terminal : Terminal) (console : Console) (disk : Disk) (request : Request) :
    (follow terminal console disk request).disk = disk ∨ ∃ document given root output,
      request = .inject document given root ∧
      Writes disk (follow terminal console disk request).disk
        (disk.resolve (Path.ofText document)) given output := by
  cases request with
  | answered printout exit => exact .inl rfl
  | failed fault => exact .inl rfl
  | version => exact .inl (finishWith_disk terminal console disk _)
  | deps document root => exact .inl (deps_disk terminal console disk _ _)
  | inject document given root =>
    refine (disk_inject terminal console disk _ given _).imp_right ?_
    rintro ⟨output, hWrites⟩
    exact ⟨document, given, root, output, rfl, hWrites⟩

/-! ## Where the output leads -/

/-- An output that passes the comparison with the document leads to another place. -/
theorem Writes.target_ne {after : Disk} {place other : Place}
    (h : Writes disk after ⟨.slash, place⟩ given output)
    (hTarget : disk.target output = .ok other) : other ≠ place := by
  rintro rfl
  have hNames : Path.here ∉ output.names := by
    have hOutput := h.output_eq
    cases given with
    | some spelling =>
      obtain rfl := Except.ok.inj hOutput
      exact Path.here_not_mem_ofText spelling
    | none =>
      -- beside the document the names are those of the place, which was reached from the top
      obtain ⟨name, hName, rfl⟩ := Document.defaultOutput_eq_ok hOutput
      have hPlace : Path.here ∉ other := Disk.here_not_mem_of_target hTarget nofun
      rw [Path.replaceName, List.mem_append, List.mem_singleton]
      rintro (hMem | hEq)
      · exact hPlace ((List.dropLast_sublist other).mem hMem)
      · exact hName hEq.symm
  exact h.resolve_ne (Disk.resolve_of_target hTarget hNames)

/-! ## What is left alone -/

/-- Whether the output of the request leads to the place. -/
def Outputs (disk : Disk) (request : Request) (place : Place) : Prop :=
  ∃ document given root output, request = .inject document given root ∧
    outputPath (disk.resolve (Path.ofText document)) given = .ok output ∧
    disk.target output = .ok place

/-- What follows from a request for a document leaves it as it was, also as it is read by any path
that resolves to it, and the only place where anything may change is that of the output, which is a
file then. -/
theorem follow_keeps_document (terminal : Terminal) (console : Console) (disk : Disk)
    (request : Request) :
    let after := (follow terminal console disk request).disk
    (∀ document given root, request = .inject document given root →
      after.get? (disk.resolve (Path.ofText document)).names =
        disk.get? (disk.resolve (Path.ofText document)).names ∧
      ∀ path, Path.here ∉ path.names → disk.resolve path = disk.resolve (Path.ofText document) →
        ∀ content, after.read path = .ok content ↔ disk.read path = .ok content) ∧
    ∀ place, after.get? place ≠ disk.get? place →
      Outputs disk request place ∧ ∃ content, after.get? place = some (.file content) := by
  dsimp only
  obtain hSame | ⟨document, given, root, output, rfl, hWrites⟩ :=
    disk_follow terminal console disk request
  · rw [hSame]
    exact ⟨fun _ _ _ _ => ⟨rfl, fun _ _ _ _ => .rfl⟩, fun _ hChanged => absurd rfl hChanged⟩
  · generalize (follow terminal console disk (.inject document given root)).disk = after at hWrites
    obtain ⟨place, kept, hTarget, hEntry, rfl⟩ := hWrites.replaces
    have hNe : place ≠ (disk.resolve (Path.ofText document)).names := hWrites.target_ne hTarget
    have hOthers {other : Place} (hOther : other ≠ place) :
        (disk.insert place (.file kept)).get? other = disk.get? other :=
      Disk.get?_insert_of_ne disk hOther _
    constructor
    · rintro _ _ _ ⟨⟩
      refine ⟨hOthers hNe.symm, fun path hNames hPath content => ?_⟩
      rw [Disk.read_eq_ok_iff, Disk.read_eq_ok_iff]
      refine exists_congr fun found => exists_congr fun stored => ?_
      rw [Disk.target_insert_file hEntry]
      refine and_congr_right fun hFound => ?_
      have hDocument : found = (disk.resolve (Path.ofText document)).names := by
        rw [← hPath, Disk.resolve_of_target hFound hNames]
      rw [hOthers (hDocument ▸ hNe.symm)]
      rfl
    · intro other hChanged
      obtain rfl : other = place := by
        by_contra hOther
        exact hChanged (hOthers hOther)
      exact ⟨⟨document, given, root, output, rfl, hWrites.output_eq, hTarget⟩, kept,
        Disk.get?_insert_self disk (Disk.ne_nil_of_get? hEntry) _⟩

/-- Whoever reads the command line: a run on a document leaves it as it was, also as it is read by
any path that resolves to it, and the only place where anything may change is that of the output,
which is a file then. -/
theorem run_keeps_document (reader : Reader) (terminal : Terminal) (console : Console) (disk : Disk)
    (args : List Text) :
    let after := (run reader terminal console disk args).disk
    (∀ document given root, (reader disk args).request = .inject document given root →
      after.get? (disk.resolve (Path.ofText document)).names =
        disk.get? (disk.resolve (Path.ofText document)).names ∧
      ∀ path, Path.here ∉ path.names → disk.resolve path = disk.resolve (Path.ofText document) →
        ∀ content, after.read path = .ok content ↔ disk.read path = .ok content) ∧
    ∀ place, after.get? place ≠ disk.get? place →
      Outputs disk (reader disk args).request place ∧
        ∃ content, after.get? place = some (.file content) :=
  follow_keeps_document terminal _ disk (reader disk args).request

/-- A working directory with a document and a directory in it. -/
def workplace : Disk where
  entries :=
    [([['w']], .directory), ([['w'], ['s']], .directory), ([['w'], ['d']], .file [0x61, 0x0A])]
  home := [['w']]

/-- A request for the document, with an output that is spelled in a roundabout way. -/
def roundaboutRequest : List Text := ["inject", "d", "--output", ".//s/.././o"].map String.toList

/-- The run on that request. -/
def roundaboutRun : Outcome :=
  run CommandLine.reader .plain {} workplace roundaboutRequest

/-- The output is written where its path leads, and the document is read as before, here by way of
the directory beside it. -/
theorem run_keeps_document_roundabout :
    (CommandLine.reader workplace roundaboutRequest).request =
      .inject ['d'] (some ".//s/.././o".toList) ['.'] ∧
    roundaboutRun.exit = 0 ∧
    roundaboutRun.disk.get? [['w'], ['o']] ≠ workplace.get? [['w'], ['o']] ∧
    Outputs workplace (CommandLine.reader workplace roundaboutRequest).request [['w'], ['o']] ∧
    roundaboutRun.disk.read (Path.ofText "s/../d".toList) = .ok [0x61, 0x0A] := by
  have hRequest : (CommandLine.reader workplace roundaboutRequest).request =
      .inject ['d'] (some ".//s/.././o".toList) ['.'] := by decide +kernel
  have hChanged : roundaboutRun.disk.get? [['w'], ['o']] ≠ workplace.get? [['w'], ['o']] := by
    decide +kernel
  have hBefore : workplace.read (Path.ofText "s/../d".toList) = .ok [0x61, 0x0A] := by rfl
  obtain ⟨hDocument, hElsewhere⟩ :=
    run_keeps_document CommandLine.reader .plain {} workplace roundaboutRequest
  refine ⟨hRequest, by decide +kernel, hChanged, (hElsewhere _ hChanged).1, ?_⟩
  refine ((hDocument _ _ _ hRequest).2 _ ?_ (by decide +kernel) _).mpr hBefore
  exact Path.here_not_mem_ofText _

end Program

end Excerpt
