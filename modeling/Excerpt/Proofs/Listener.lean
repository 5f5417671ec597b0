import Excerpt.Listener
import Excerpt.Proofs.Selector.Numbers

/-!
# Computations in front of a listener

A computation of which no notice is refused goes on as if nobody heard it. A recorder refuses
nothing but announcements of numbers too long for it, and that is a matter of the announcement
alone. So whatever was told before a computation, in front of a recorder it goes on in the same
way.

* `Journal.heardBy_of_heard`: a computation of which nothing is refused.
* `Recorder.refusal?_inserted`, `Recorder.refusal?_eq_none`: what a recorder refuses.
* `Journal.heardBy_recorder`: a computation in front of a recorder.
* `Session.mapM_of_steady`: sessions for every member of a list, if nothing depends on what was
  told.
* `Journal.notices_mapM`, `Journal.notices_mapM_of_error`: the notices of a computation for every
  member of a list.
-/

namespace Excerpt

variable {α β : Type}

/-! ## What is heard -/

section

variable {listener : Listener}

theorem Listener.hear_of_heard {notices : List Notice}
    (h : ∀ n ∈ notices, ∀ told, listener.refusal? told n = none) (told : List Notice) :
    listener.hear told notices = (notices, none) := by
  induction notices generalizing told with
  | nil => rfl
  | cons n rest ih =>
    obtain ⟨hFirst, hRest⟩ := List.forall_mem_cons.mp h
    rw [hear, hFirst told]
    dsimp only
    rw [ih hRest]
    rfl

namespace Journal

theorem heardBy_of_heard {j : Journal α}
    (h : ∀ n ∈ j.notices, ∀ told, listener.refusal? told n = none) (told : List Notice) :
    j.heardBy listener told = j := by
  rw [heardBy, Listener.hear_of_heard h]

/-- A computation that tells one thing ends with it if it is refused. -/
theorem heardBy_singleton (n : Notice) (outcome : Except Fault α) (told : List Notice) :
    heardBy listener ⟨[n], outcome⟩ told =
      match listener.refusal? told n with
      | some fault => fail fault
      | none => ⟨[n], outcome⟩ := by
  unfold heardBy Listener.hear Listener.hear
  cases listener.refusal? told n <;> rfl

end Journal

end

/-! ## Recorders -/

namespace Diagnostic

/-- Of the lines of an announcement, the last one has the largest number. -/
theorem isUnwritable_inserted (source : Text) (range : LineRange) :
    isUnwritable (.event insertedName [("source".toList, .text source),
      ("start".toList, .int range.first), ("end".toList, .int range.last)]) =
        decide (numberBound ≤ range.last) := by
  have hSpelled : spelledFields insertedName [("source".toList, .text source),
      ("start".toList, .int range.first), ("end".toList, .int range.last)] =
        (if source = [] then [] else [.text source]) ++
          [.int range.first, .int range.last] := by
    simp [spelledFields, Fields.get, List.lookup_cons, Datum.isTruthy, Datum.isNull]
  have hOrder : numberBound ≤ range.first → numberBound ≤ range.last :=
    fun h => h.trans range.first_le_last
  rw [isUnwritable, hSpelled]
  split <;> simpa [Datum.isUnwritable, LineRange.isUnwritable_natCast] using hOrder

theorem isUnwritable_skipped (line reason : Text) :
    isUnwritable (.event skippedName [("line".toList, .text line),
      ("reason".toList, .text reason)]) = false := by
  have hNames : skippedName ≠ insertedName := by decide
  have hSpelled : spelledFields skippedName [("line".toList, .text line),
      ("reason".toList, .text reason)] = if line = [] then [] else [.text line] := by
    simp [spelledFields, Fields.get, Datum.isTruthy, hNames]
  rw [isUnwritable, hSpelled]
  split <;> simp [Datum.isUnwritable]

end Diagnostic

namespace Recorder

/-- The fault by which a recorder refuses a notice. -/
def refusal? (recorder : Recorder) (n : Notice) : Option Fault := recorder.listener.refusal? [] n

theorem refusal?_told (recorder : Recorder) (told : List Notice) (n : Notice) :
    recorder.listener.refusal? told n = recorder.refusal? n := by
  cases recorder <;> rfl

theorem refusal?_inserted (recorder : Recorder) (source : Text) (range : LineRange) :
    recorder.refusal? (.inserted source range) =
      if recorder = .wording ∧ numberBound ≤ range.last then some .numberTooLong else none := by
  cases recorder with
  | keeping => rfl
  | wording =>
    change (if Diagnostic.isUnwritable _ then _ else _) = _
    rw [Diagnostic.isUnwritable_inserted]
    simp only [decide_eq_true_eq, true_and]

/-- Nothing but announcements is ever refused. -/
theorem refusal?_eq_none {n : Notice} (h : ∀ source range, n ≠ .inserted source range)
    (recorder : Recorder) : recorder.refusal? n = none := by
  cases recorder with
  | keeping => cases n <;> rfl
  | wording =>
    cases n with
    | inserted source range => exact absurd rfl (h source range)
    | skipped line reason =>
      change (if Diagnostic.isUnwritable _ then _ else _) = _
      rw [Diagnostic.isUnwritable_skipped, if_neg Bool.false_ne_true]
    | editWithoutKind | unknownOption | notProcessed | located | processed => rfl

theorem kind_of_refusal {recorder : Recorder} {n : Notice} {fault : Fault}
    (h : recorder.refusal? n = some fault) : fault.kind = .value := by
  cases recorder with
  | keeping => cases n <;> cases h
  | wording =>
    unfold refusal? Listener.refusal? at h
    obtain ⟨diagnostic, -, hRefused⟩ := Option.bind_eq_some_iff.mp h
    change (if diagnostic.isUnwritable then _ else _) = _ at hRefused
    split at hRefused
    · cases hRefused
      rfl
    · cases hRefused

theorem hear_told (recorder : Recorder) (told notices : List Notice) :
    recorder.listener.hear told notices = recorder.listener.hear [] notices := by
  induction notices generalizing told with
  | nil => rfl
  | cons n rest ih =>
    rw [Listener.hear, Listener.hear, refusal?_told, refusal?_told, ih, ih ([] ++ [n])]

end Recorder

theorem Journal.heardBy_recorder (recorder : Recorder) (j : Journal α) (told : List Notice) :
    j.heardBy recorder.listener told = j.heardBy recorder.listener [] := by
  rw [heardBy, heardBy, Recorder.hear_told]

/-! ## Sessions for every member of a list -/

/-- Sessions that do not depend on what was told before them go on one behind the other as the
computations that they are. -/
theorem Session.mapM_of_steady {f : α → Session β} {g : α → Journal β}
    (h : ∀ a told, f a told = g a) (xs : List α) (told : List Notice) :
    (xs.mapM f) told = xs.mapM g := by
  induction xs generalizing told with
  | nil => rfl
  | cons a rest ih => simp only [List.mapM_cons, bind_apply, pure_apply, h, ih]

namespace Journal

theorem notices_mapM {f : α → Journal β} {xs : List α} {ys : List β}
    (h : (xs.mapM f).outcome = .ok ys) :
    (xs.mapM f).notices = xs.flatMap fun a => (f a).notices := by
  induction xs generalizing ys with
  | nil => rfl
  | cons a rest ih =>
    rw [List.mapM_cons, outcome_bind] at h
    obtain ⟨b, hFirst, h⟩ := bind_eq_ok_iff.mp h
    rw [outcome_bind] at h
    obtain ⟨bs, hRest, -⟩ := bind_eq_ok_iff.mp h
    rw [List.mapM_cons, (notices_bind_ok hFirst _).1, (notices_bind_ok hRest _).1, ih hRest,
      List.flatMap_cons]
    simp [pure]

/-- The member that fails is the last that tells something. -/
theorem notices_mapM_of_error {f : α → Journal β} {before behind : List α} {bad : α}
    {fault : Fault} (hBefore : ∀ a ∈ before, ∃ b, (f a).outcome = .ok b)
    (hBad : (f bad).outcome = .error fault) :
    ((before ++ bad :: behind).mapM f).notices =
        (before ++ [bad]).flatMap (fun a => (f a).notices) ∧
      ((before ++ bad :: behind).mapM f).outcome = .error fault := by
  induction before with
  | nil =>
    obtain ⟨hNotices, hOutcome⟩ := notices_bind_error hBad fun b => do
      let bs ← behind.mapM f
      pure (b :: bs)
    rw [List.nil_append, List.mapM_cons, hNotices, hOutcome]
    simp
  | cons a before ih =>
    obtain ⟨b, hFirst⟩ := hBefore a List.mem_cons_self
    obtain ⟨hNotices, hOutcome⟩ := ih fun c hc => hBefore c (List.mem_cons_of_mem a hc)
    rw [List.cons_append, List.mapM_cons, (notices_bind_ok hFirst _).1,
      (notices_bind_ok hFirst _).2, (notices_bind_error hOutcome _).1,
      (notices_bind_error hOutcome _).2, hNotices, List.cons_append, List.flatMap_cons]
    exact ⟨rfl, rfl⟩

/-- Computations that tell nothing, and have the outcomes of others. -/
theorem mapM_eq_lift {γ : Type} {f : α → Journal β} {g : γ → Journal β} {xs : List α}
    {ys : List γ} (h : List.Forall₂ (fun a c => g c = lift (f a).outcome) xs ys) :
    ys.mapM g = lift (xs.mapM f).outcome := by
  induction h with
  | nil => rfl
  | @cons a c xs ys hFirst hRest ih =>
    rw [List.mapM_cons, List.mapM_cons, hFirst, ih, outcome_bind]
    cases (f a).outcome with
    | error fault => rfl
    | ok b =>
      change _ = lift ((xs.mapM f >>= fun bs => pure (b :: bs)).outcome)
      rw [outcome_bind]
      cases (xs.mapM f).outcome <;> rfl

end Journal

end Excerpt
