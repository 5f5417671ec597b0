import Excerpt.Insertion
import Excerpt.Proofs.Listener
import Excerpt.Proofs.Render.Refusal

/-!
# The phases of an insertion

A command is read as a whole; then its lines are found and read; then what it says about lines is
brought onto them, which cannot fail. Before that is done nothing is told but remarks on the way,
which no recorder refuses.

* `Insertion.build_eq`: the phases in order.
* `Highlights.toAbsolute_onto`, `Edits.toAbsolute_onto`: selectors can be brought onto every range.
* `Insertion.kind_of_fenced`: the kinds of faults that a rendering can end with.
* `expandLine_recorder`: a line in front of a recorder, whatever it has heard before.
* `outcome_run`: what becomes of a command, from the outcome of its insertion.
-/

namespace Excerpt

/-! ## Selectors on a range -/

namespace Highlights

/-- The highlights by lines of the file, for a block with the given range. -/
def onto (base : LineRange) (h : Highlights) : Highlights :=
  match h.mode with
  | .absolute => h
  | .relative => ⟨h.items.map (Item.shift (base.first - 1)), .absolute⟩

theorem toAbsolute_onto (h : Highlights) (base : LineRange) :
    h.toAbsolute (some base) = .ok (h.onto base) := by
  obtain ⟨items, mode⟩ := h
  cases mode with
  | absolute => rfl
  | relative =>
    have hItems : items.mapM (fun item => Addressing.resolve .relative item (some base)) =
        Except.ok (items.map (Item.shift (base.first - 1))) := by
      simp only [Addressing.resolve_relative]
      exact List.mapM_pure
    simp only [toAbsolute, hItems, onto]

end Highlights

namespace Edits

/-- The edits by lines of the file, for a block with the given range. -/
def onto (base : LineRange) (e : Edits) : Edits :=
  match e.mode with
  | .absolute => e
  | .relative =>
    ⟨e.items.map fun edit => ⟨edit.item.shift (base.first - 1), edit.kind⟩, .absolute⟩

theorem toAbsolute_onto (e : Edits) (base : LineRange) :
    e.toAbsolute (some base) = .ok (e.onto base) := by
  obtain ⟨items, mode⟩ := e
  cases mode with
  | absolute => rfl
  | relative =>
    have hItems : items.mapM (fun edit =>
          (Addressing.resolve .relative edit.item (some base)).map (Edit.mk · edit.kind)) =
        Except.ok (items.map fun edit => ⟨edit.item.shift (base.first - 1), edit.kind⟩) := by
      simp only [Addressing.resolve_relative]
      exact List.mapM_pure
    simp only [toAbsolute, hItems, onto]

end Edits

/-! ## Reading, finding, bringing together -/

/-- What the suffixes of a command ask for. -/
structure Instructions where
  options : RenderOptions
  highlights : Highlights
  edits : Edits
  deriving DecidableEq, Repr

/-- Reads what stands in the suffixes. -/
def Suffixes.read (s : Suffixes) : Journal Instructions := do
  let options ← RenderOptions.read s.options
  let highlights ← Journal.lift (readHighlights s.highlight)
  let edits ← readEdits s.edit
  pure ⟨options, highlights, edits⟩

namespace Insertion

/-- The insertion of a command whose block has been read. -/
def assemble (sources : Sources) (c : Command) (wanted : Instructions) (block : CodeBlock) :
    Insertion :=
  ⟨c.filename, block, sources.languages.tagOf c.filename, wanted.highlights.onto block.range,
    wanted.edits.onto block.range, wanted.options⟩

/-- Finds and reads the block of a command. -/
def fetch (sources : Sources) (c : Command) : Journal CodeBlock := do
  let range ← resolve sources c
  Journal.lift (CodeBlock.read sources.disk (c.sourcePath sources.root) range)

theorem range_of_read {disk : Disk} {path : Path} {range : LineRange} {block : CodeBlock}
    (h : CodeBlock.read disk path range = .ok block) : block.range = range := by
  unfold CodeBlock.read at h
  split at h
  · cases h
  · split at h
    · cases h
    · cases h
      rfl

/-- Once the block has been read, nothing can fail. -/
theorem read_then_assemble (sources : Sources) (c : Command) (wanted : Instructions)
    (range : LineRange) :
    (do
      let block ← Journal.lift (CodeBlock.read sources.disk (c.sourcePath sources.root) range)
      let highlights ← Journal.lift (wanted.highlights.toAbsolute range)
      let edits ← Journal.lift (wanted.edits.toAbsolute range)
      pure (Insertion.mk c.filename block (sources.languages.tagOf c.filename) highlights edits
        wanted.options)) = (do
      let block ← Journal.lift (CodeBlock.read sources.disk (c.sourcePath sources.root) range)
      pure (assemble sources c wanted block)) := by
  cases h : CodeBlock.read sources.disk (c.sourcePath sources.root) range with
  | error fault => rfl
  | ok block =>
    rw [Highlights.toAbsolute_onto, Edits.toAbsolute_onto]
    obtain rfl := range_of_read h
    rfl

theorem build_eq (sources : Sources) (line : Text) :
    build sources line = (do
      let c ← Journal.lift (Command.parse line)
      let wanted ← c.suffixes.read
      let block ← fetch sources c
      pure (assemble sources c wanted block)) := by
  have hRest := read_then_assemble sources
  simp only [build, Suffixes.read, fetch, bind_assoc, pure_bind]
  congr 1
  funext c
  congr 1
  funext options
  congr 1
  funext highlights
  congr 1
  funext edits
  congr 1
  funext range
  exact hRest c ⟨options, highlights, edits⟩ range

theorem outcome_fetch (sources : Sources) (c : Command) : (fetch sources c).outcome =
    (resolve sources c).outcome >>= fun r =>
      CodeBlock.read sources.disk (c.sourcePath sources.root) r := by
  unfold fetch
  rw [Journal.outcome_bind]
  rfl

theorem outcome_build_of_parse (sources : Sources) {line : Text} {c : Command}
    (h : Command.parse line = .ok c) : (build sources line).outcome =
      c.suffixes.read.outcome >>= fun wanted =>
        (fetch sources c).outcome.map (assemble sources c wanted) := by
  rw [build_eq]
  simp only [Journal.outcome_bind, Journal.outcome_lift, Journal.outcome_pure, h]
  rfl

/-- An insertion that is built is assembled for the command that was read. -/
theorem exists_assemble_of_build {sources : Sources} {line : Text} {i : Insertion}
    (h : (build sources line).outcome = .ok i) :
    ∃ c wanted block, Command.parse line = .ok c ∧ i = assemble sources c wanted block := by
  rw [build_eq] at h
  simp only [Journal.outcome_bind, Journal.outcome_lift] at h
  obtain ⟨c, hParse, h⟩ := bind_eq_ok_iff.mp h
  obtain ⟨wanted, -, h⟩ := bind_eq_ok_iff.mp h
  obtain ⟨block, -, h⟩ := bind_eq_ok_iff.mp h
  cases h
  exact ⟨c, wanted, block, hParse, rfl⟩

theorem outcome_build_of_error (sources : Sources) {line : Text} {fault : Fault}
    (h : Command.parse line = .error fault) : (build sources line).outcome = .error fault := by
  rw [build_eq]
  simp only [Journal.outcome_bind, Journal.outcome_lift, h]
  rfl

/-! ## Notices -/

/-- What may be told before it is known whether a command is replaced. -/
def IsRemark : Notice → Prop
  | .editWithoutKind _ | .unknownOption _ | .located .. => True
  | _ => False

theorem refusal_of_isRemark {n : Notice} (h : IsRemark n) (recorder : Recorder) :
    recorder.refusal? n = none := by
  refine Recorder.refusal?_eq_none ?_ recorder
  rintro source range rfl
  exact h.elim

theorem tells_readPair (options : RenderOptions) (pair : Text) :
    Journal.Tells IsRemark (options.readPair pair) := by
  unfold RenderOptions.readPair
  split
  · exact Journal.tells_fail _
  · dsimp only
    split
    · exact Journal.tells_lift _
    · split
      · exact Journal.tells_lift _
      · exact Journal.tells_bind (Journal.tells_tell trivial) fun _ _ => Journal.tells_pure _

theorem tells_readEdit (block : Text) : Journal.Tells IsRemark (readEdit block) := by
  have hItems (kind : EditKind) (body : Text) : Journal.Tells IsRemark (do
      let items ← Journal.lift (readBlock body)
      pure (items.map fun item => Edit.mk item kind)) :=
    Journal.tells_bind (Journal.tells_lift _) fun _ _ => Journal.tells_pure _
  unfold readEdit
  cases editOf? block with
  | some edit => exact Journal.tells_bind (Journal.tells_pure _) fun edit _ => hItems edit.1 edit.2
  | none =>
    refine Journal.tells_bind (Journal.tells_tell trivial) fun _ _ => ?_
    exact Journal.tells_bind (Journal.tells_pure _) fun edit _ => hItems edit.1 edit.2

theorem tells_readSuffixes (s : Suffixes) : Journal.Tells IsRemark s.read := by
  refine Journal.tells_bind ?_ fun options _ => ?_
  · unfold RenderOptions.read
    split
    · exact Journal.tells_pure _
    · exact Journal.tells_foldlM _ tells_readPair _
  · refine Journal.tells_bind (Journal.tells_lift _) fun highlights _ => ?_
    refine Journal.tells_bind ?_ fun edits _ => Journal.tells_pure _
    unfold readEdits
    split
    · exact Journal.tells_pure _
    · exact Journal.tells_bind (Journal.tells_mapM _ fun block _ => tells_readEdit block)
        fun _ _ => Journal.tells_pure _

theorem tells_resolve (sources : Sources) (c : Command) :
    Journal.Tells IsRemark (resolve sources c) := by
  unfold resolve
  split
  · exact Journal.tells_pure _
  · unfold Marker.locate
    split
    · exact Journal.tells_fail _
    · split
      · split <;> exact Journal.tells_fail _
      · split
        · exact Journal.tells_fail _
        · exact Journal.tells_bind (Journal.tells_tell trivial) fun _ _ => Journal.tells_lift _

theorem tells_build (sources : Sources) (line : Text) :
    Journal.Tells IsRemark (build sources line) := by
  rw [build_eq]
  refine Journal.tells_bind (Journal.tells_lift _) fun c _ => ?_
  refine Journal.tells_bind (tells_readSuffixes _) fun wanted _ => ?_
  refine Journal.tells_bind ?_ fun block _ => Journal.tells_pure _
  exact Journal.tells_bind (tells_resolve _ _) fun range _ => Journal.tells_lift _

/-! ## Outcomes -/

/-- The kinds of faults that a rendering can end with. -/
theorem kind_of_fenced {i : Insertion} {fault : Fault} (h : i.fenced = .error fault) :
    fault.kind = .range ∨ fault.kind = .overflow := by
  obtain ⟨_, _, _, _, -, -, hRefuses⟩ := Rendering.text_eq_error_iff.mp (map_eq_error_iff.mp h)
  exact hRefuses.kind

/-- The text of an insertion, unless the recorder refuses the notice of it. -/
def toldTo (recorder : Recorder) (i : Insertion) : Except Fault Text :=
  match recorder.refusal? (.inserted i.source i.block.range) with
  | some fault => .error fault
  | none => i.fenced

/-- What is told before a command is read and its block is found, is heard. -/
theorem build_heardBy (sources : Sources) (recorder : Recorder) (line : Text)
    (told : List Notice) :
    (build sources line).heardBy recorder.listener told = build sources line := by
  refine Journal.heardBy_of_heard (fun n hn told => ?_) told
  rw [Recorder.refusal?_told, refusal_of_isRemark (tells_build sources line n hn)]

end Insertion

/-! ## A line in front of a recorder -/

variable {sources : Sources} {recorder : Recorder} {line : Text}

/-- A recorder is the same whatever it has heard. -/
theorem expandLine_recorder (sources : Sources) (recorder : Recorder) (line : Text)
    (told : List Notice) :
    expandLine sources recorder.listener line told = sources.run recorder line := by
  unfold Sources.run expandLine
  cases CommandKind.ofLine? line with
  | none => rfl
  | some kind =>
    simp only [Session.attempt_bind, Insertion.build_heardBy]
    rw [Journal.heardBy_recorder recorder _ (told ++ _),
      Journal.heardBy_recorder recorder _ ([] ++ _)]

theorem Sources.run_of_not_command (sources : Sources) (recorder : Recorder)
    (hLine : isCommandLine line = false) : sources.run recorder line = pure line := by
  rw [run, expandLine_of_not_command sources recorder.listener hLine, Session.pure_apply]

/-- What is told before the command is read and its block is found, and what is answered then. -/
theorem Sources.run_of_command {kind : CommandKind} (hKind : CommandKind.ofLine? line = some kind) :
    sources.run recorder line = ⟨(Insertion.build sources line).notices ++
      ((answer kind line (Insertion.build sources line).outcome).heardBy recorder.listener
        []).notices,
      ((answer kind line (Insertion.build sources line).outcome).heardBy recorder.listener
        []).outcome⟩ := by
  unfold run expandLine
  simp only [hKind, Session.attempt_bind, Insertion.build_heardBy]
  rw [Journal.heardBy_recorder recorder _ ([] ++ _)]

/-- That a line is kept is told to every recorder. -/
theorem answer_kept (kind : CommandKind) (line : Text) {fault : Fault}
    (h : fault.kind = .notFound) (recorder : Recorder) :
    (answer kind line (.error fault)).heardBy recorder.listener [] =
      ⟨[.notProcessed kind.keyword line fault, .skipped line fault.message.toList],
        .ok line⟩ := by
  rw [answer, if_pos h]
  refine Journal.heardBy_of_heard (fun n hn told => ?_) []
  rw [Recorder.refusal?_told]
  refine Recorder.refusal?_eq_none ?_ recorder
  rintro source range rfl
  simp at hn

/-- What becomes of a command line whose insertion has the given outcome. -/
def settle (recorder : Recorder) (line : Text) : Except Fault Insertion → Except Fault Text
  | .error fault => if fault.kind = .notFound then .ok line else .error fault
  | .ok insertion => insertion.toldTo recorder

theorem outcome_run (sources : Sources) {kind : CommandKind}
    (hKind : CommandKind.ofLine? line = some kind) (recorder : Recorder) :
    (sources.run recorder line).outcome =
      settle recorder line (Insertion.build sources line).outcome := by
  rw [Sources.run_of_command hKind]
  dsimp only
  cases Insertion.build sources line |>.outcome with
  | error fault =>
    rw [settle]
    by_cases hFound : fault.kind = .notFound
    · rw [answer_kept kind line hFound, if_pos hFound]
    · rw [answer, if_neg hFound, if_neg hFound]
      rfl
  | ok insertion =>
    rw [answer, Journal.heardBy_singleton, Recorder.refusal?_told, settle, Insertion.toldTo]
    cases recorder.refusal? (.inserted insertion.source insertion.block.range) <;> rfl

end Excerpt
