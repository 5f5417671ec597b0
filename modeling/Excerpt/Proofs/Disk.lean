import Excerpt.Disk.Feed
import Excerpt.Proofs.Outcome

/-!
# Writing a file

A file is written where its path leads, and never in place of a directory. So every path that could
be followed before can still be followed, to the same place, and nothing else has changed; that is
so whatever the medium makes of the file, also if it breaks off. Where the medium keeps what is
written, the file reads as it was written.

* `Disk.Replaces`: one file is put down, by whatever happens to a file that is opened to be written.
* `Disk.write_eq_ok_iff`, `Disk.write_eq_broken_iff`: what can be written, and what breaks off.
* `Disk.target_insert_file`: the paths that can be followed afterwards.
* `Disk.Replaces.exists_only`: what stands in other places afterwards.
* `Disk.read_eq_ok_iff`: what is read, by the place that the path leads to.
* `Disk.IsPlain.keeps`: what is read afterwards, on a medium without answers of its own.
* `Disk.openToRead_eq_nullCharacter_iff`: the paths that no disk can read.
-/

namespace Excerpt.Disk

variable {d d' : Disk} {p : Path} {place : Place} {content : Bytes}

theorem openToWrite_eq_ok_iff {transfer : Transfer} :
    d.openToWrite p content = .ok (place, transfer) ↔ d.target p = .ok place ∧
      d.get? place ≠ some .directory ∧ d.medium.writing place content = .ok transfer := by
  unfold openToWrite
  constructor
  · intro h
    split at h
    · cases h
    · rename_i hTarget
      split at h
      · cases h
      · rename_i hEntry
        obtain ⟨_, hKept, hPair⟩ := map_eq_ok_iff.mp (mapError_eq_ok_iff.mp h)
        cases hPair
        exact ⟨hTarget, hEntry, hKept⟩
  · rintro ⟨hTarget, hEntry, hKept⟩
    rw [hTarget]
    dsimp only
    split
    · rename_i hDirectory
      exact absurd hDirectory hEntry
    · rw [hKept]
      rfl

theorem write_eq_ok_iff :
    d.write p content = .ok d' ↔ ∃ place kept, d.target p = .ok place ∧
      d.get? place ≠ some .directory ∧ d.medium.writing place content = .ok ⟨kept, none⟩ ∧
      d' = d.insert place (.file kept) := by
  unfold write
  constructor
  · intro h
    split at h
    · cases h
    · rename_i place kept hOpen
      obtain ⟨hTarget, hEntry, hKept⟩ := openToWrite_eq_ok_iff.mp hOpen
      exact ⟨place, kept, hTarget, hEntry, hKept, (Except.ok.inj h).symm⟩
    · cases h
  · rintro ⟨place, kept, hTarget, hEntry, hKept, rfl⟩
    rw [openToWrite_eq_ok_iff.mpr ⟨hTarget, hEntry, hKept⟩]

theorem write_eq_broken_iff {cause : SystemError} :
    d.write p content = .error (.broken d' cause) ↔ ∃ place kept, d.target p = .ok place ∧
      d.get? place ≠ some .directory ∧
      d.medium.writing place content = .ok ⟨kept, some cause⟩ ∧
      d' = d.insert place (.file kept) := by
  unfold write
  constructor
  · intro h
    split at h
    · cases h
    · cases h
    · rename_i place kept cause' hOpen
      cases h
      obtain ⟨hTarget, hEntry, hKept⟩ := openToWrite_eq_ok_iff.mp hOpen
      exact ⟨place, kept, hTarget, hEntry, hKept, rfl⟩
  · rintro ⟨place, kept, hTarget, hEntry, hKept, rfl⟩
    rw [openToWrite_eq_ok_iff.mpr ⟨hTarget, hEntry, hKept⟩]

/-- Whether one disk is the other with a file put down where the path leads, over whatever file was
there. -/
def Replaces (d : Disk) (p : Path) (d' : Disk) : Prop :=
  ∃ place kept, d.target p = .ok place ∧ d.get? place ≠ some .directory ∧
    d' = d.insert place (.file kept)

theorem replaces_of_write (h : d.write p content = .ok d') : d.Replaces p d' := by
  obtain ⟨place, kept, hTarget, hEntry, -, hAfter⟩ := write_eq_ok_iff.mp h
  exact ⟨place, kept, hTarget, hEntry, hAfter⟩

theorem replaces_of_broken {cause : SystemError}
    (h : d.write p content = .error (.broken d' cause)) : d.Replaces p d' := by
  obtain ⟨place, kept, hTarget, hEntry, -, hAfter⟩ := write_eq_broken_iff.mp h
  exact ⟨place, kept, hTarget, hEntry, hAfter⟩

theorem ne_nil_of_get? (h : d.get? place ≠ some .directory) : place ≠ [] := by
  rintro rfl
  exact h rfl

/-! ## Paths -/

theorem step_eq_ok_iff {name : Text} {next : Place} :
    d.step place name = .ok next ↔ d.get? place = some .directory ∧
      d.medium.entering place = none ∧
      (if name = Path.here then .ok place
        else if name = Path.above then .ok place.dropLast
        else if nameLimit < Utf8.size name then .error .nameTooLong
        else .ok (place ++ [name]) : Except SystemError Place) = .ok next := by
  unfold step
  cases hEntry : d.get? place with
  | none => simp
  | some entry =>
    cases entry with
    | file => simp
    | directory => cases d.medium.entering place <;> simp

/-- A file is in nobody's way but where there was no directory before. -/
theorem get?_insert_file_eq_directory_iff (h : d.get? place ≠ some .directory)
    (content : Bytes) (other : Place) :
    (d.insert place (.file content)).get? other = some .directory ↔
      d.get? other = some .directory := by
  by_cases hOther : other = place
  · subst hOther
    rw [get?_insert_self d (ne_nil_of_get? h)]
    exact ⟨nofun, fun hDirectory => absurd hDirectory h⟩
  · rw [get?_insert_of_ne d hOther]

theorem step_insert_file (h : d.get? place ≠ some .directory) (content : Bytes)
    (above : Place) (name : Text) (next : Place) :
    (d.insert place (.file content)).step above name = .ok next ↔ d.step above name = .ok next := by
  rw [step_eq_ok_iff, step_eq_ok_iff, get?_insert_file_eq_directory_iff h]
  rfl

theorem foldlM_step_insert_file (h : d.get? place ≠ some .directory) (content : Bytes)
    (names : List Text) (above last : Place) :
    names.foldlM (d.insert place (.file content)).step above = .ok last ↔
      names.foldlM d.step above = .ok last := by
  induction names generalizing above with
  | nil => rfl
  | cons name rest ih =>
    simp only [List.foldlM_cons, bind_eq_ok_iff, step_insert_file h, ih]

theorem target_eq_ok_iff :
    d.target p = .ok place ↔ p.toText.contains '\x00' = false ∧
      ¬ pathLimit ≤ Utf8.size p.toText ∧ p.names.foldlM d.step (d.start p.root) = .ok place := by
  unfold target Disk.place
  cases hNull : p.toText.contains '\x00' with
  | true => simp
  | false =>
    rw [if_neg Bool.false_ne_true, mapError_eq_ok_iff]
    split <;> simp_all

theorem target_insert_file (h : d.get? place ≠ some .directory) (content : Bytes) (q : Path)
    (other : Place) :
    (d.insert place (.file content)).target q = .ok other ↔ d.target q = .ok other := by
  have hStart : (d.insert place (.file content)).start q.root = d.start q.root := by
    cases q.root <;> rfl
  rw [target_eq_ok_iff, target_eq_ok_iff, hStart, foldlM_step_insert_file h]

/-! ## Contents -/

theorem openToRead_eq_ok_iff {transfer : Transfer} : d.openToRead p = .ok transfer ↔
    ∃ place stored, d.target p = .ok place ∧ d.get? place = some (.file stored) ∧
      d.medium.reading place stored = .ok transfer := by
  unfold openToRead
  cases hTarget : d.target p with
  | error e => simp
  | ok place =>
    cases hEntry : d.get? place with
    | none => simp [hEntry]
    | some entry => cases entry <;> simp [hEntry, mapError_eq_ok_iff]

theorem read_eq_ok_iff : d.read p = .ok content ↔
    ∃ place stored, d.target p = .ok place ∧ d.get? place = some (.file stored) ∧
      d.medium.reading place stored = .ok ⟨content, none⟩ := by
  rw [← openToRead_eq_ok_iff]
  unfold read
  constructor
  · intro h
    split at h
    · cases h
    · rename_i hOpened
      cases h
      exact hOpened
    · cases h
  · intro h
    rw [h]

/-- Every write where the path leads goes through. -/
def Takes (d : Disk) (p : Path) : Prop := ∀ content, ∃ d', d.write p content = .ok d'

/-- What is written where the path leads remains there, and can be read. -/
def Keeps (d : Disk) (p : Path) : Prop :=
  ∀ content d', d.write p content = .ok d' → d'.read p = .ok content

/-- No other file has changed. -/
theorem Replaces.exists_only (h : d.Replaces p d') :
    ∃ place, d.target p = .ok place ∧ ∀ other, other ≠ place → d'.get? other = d.get? other := by
  obtain ⟨place, kept, hTarget, -, rfl⟩ := h
  exact ⟨place, hTarget, fun other hOther => get?_insert_of_ne d hOther _⟩

/-! ## Media without answers of their own -/

/-- Whether the medium has no answers of its own for the place of a path. -/
def IsPlain (d : Disk) (p : Path) : Prop :=
  ∀ place, d.target p = .ok place → ∀ content,
    d.medium.reading place content = .ok ⟨content, none⟩ ∧
      d.medium.writing place content = .ok ⟨content, none⟩

theorem IsPlain.takes (h : d.IsPlain p) (hTarget : d.target p = .ok place)
    (hEntry : d.get? place ≠ some .directory) : d.Takes p := fun content =>
  ⟨_, write_eq_ok_iff.mpr ⟨place, content, hTarget, hEntry, (h place hTarget content).2, rfl⟩⟩

theorem IsPlain.keeps (h : d.IsPlain p) : d.Keeps p := by
  intro content d' hWrite
  obtain ⟨place, kept, hTarget, hEntry, hKept, rfl⟩ := write_eq_ok_iff.mp hWrite
  cases hKept.symm.trans (h place hTarget content).2
  exact read_eq_ok_iff.mpr ⟨place, content, (target_insert_file hEntry content p place).mpr hTarget,
    get?_insert_self d (ne_nil_of_get? hEntry) _, (h place hTarget content).1⟩

/-! ## Null characters -/

theorem target_eq_nullCharacter_iff : d.target p = .error .nullCharacter ↔ '\x00' ∈ p.toText := by
  rw [← List.contains_iff_mem]
  unfold target
  cases hNull : p.toText.contains '\x00' with
  | true => exact iff_of_true rfl rfl
  | false =>
    rw [if_neg Bool.false_ne_true]
    refine iff_of_false ?_ Bool.false_ne_true
    cases d.place p <;> exact nofun

/-- A path with a null character is refused on every disk, and no other path is refused as one. -/
theorem openToRead_eq_nullCharacter_iff :
    d.openToRead p = .error .nullCharacter ↔ '\x00' ∈ p.toText := by
  rw [← target_eq_nullCharacter_iff (d := d)]
  unfold openToRead
  cases d.target p with
  | error e => simp only [Except.error.injEq]
  | ok place =>
    dsimp only
    split
    · cases d.medium.reading place _ <;> simp [Except.mapError]
    · simp
    · simp

theorem feed?_eq_nullCharacter_iff : d.feed? p = .error .nullCharacter ↔ '\x00' ∈ p.toText := by
  rw [← openToRead_eq_nullCharacter_iff (d := d), feed?]
  cases d.openToRead p <;> simp [Except.map]

end Excerpt.Disk
