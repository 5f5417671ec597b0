import Excerpt.Selector.Item

/-!
# Journals

While a command is processed, notices are given: warnings, the two events of a command, and
traces for a log. A journal is what a computation leaves: its notices in order, and its value or
the fault that ended it. Notices that were given before a fault remain.

* `notices_bind_ok`, `notices_bind_error`: one computation behind another adds its notices, unless
  the first one failed.
-/

namespace Excerpt

/-- Something that is worth telling while a command is processed. -/
inductive Notice where
  -- warnings
  | editWithoutKind (block : Text)
  | unknownOption (key : Text)
  | notProcessed (keyword line : Text) (fault : Fault)
  -- events
  | inserted (source : Text) (range : LineRange)
  | skipped (line reason : Text)
  -- traces
  | located (id : Text) (line : Nat) (path : Path)
  | processed (path : Path) (commands kept : Nat)
  deriving DecidableEq, Repr

/-- The notices of a computation, and its outcome. -/
structure Journal (α : Type) where
  notices : List Notice
  outcome : Except Fault α

namespace Journal

variable {α β : Type}

/-- A computation without notices. -/
def lift (outcome : Except Fault α) : Journal α := ⟨[], outcome⟩

/-- Gives one notice. -/
def tell (notice : Notice) : Journal Unit := ⟨[notice], .ok ()⟩

/-- Ends with a fault. -/
def fail (fault : Fault) : Journal α := ⟨[], .error fault⟩

/-- One computation, and behind it the one that its value calls for. -/
def andThen (j : Journal α) (f : α → Journal β) : Journal β :=
  match j.outcome with
  | .ok a => ⟨j.notices ++ (f a).notices, (f a).outcome⟩
  | .error fault => ⟨j.notices, .error fault⟩

instance : Monad Journal where
  pure a := ⟨[], .ok a⟩
  bind := andThen

instance : MonadLift (Except Fault) Journal where
  monadLift := lift

/-- Nothing depends on how a computation is put together from its parts. -/
instance : LawfulMonad Journal := LawfulMonad.mk' Journal
  (fun j => by
    change j.andThen (fun a => ⟨[], .ok a⟩) = j
    obtain ⟨notices, outcome⟩ := j
    cases outcome <;> simp [andThen])
  (fun a f => by
    change andThen ⟨[], .ok a⟩ f = f a
    simp [andThen])
  (fun j f g => by
    change (j.andThen f).andThen g = j.andThen fun a => (f a).andThen g
    obtain ⟨notices, outcome⟩ := j
    cases outcome with
    | error fault => rfl
    | ok a =>
      cases h : (f a).outcome <;> simp [andThen, h])

theorem notices_bind_ok {j : Journal α} {a : α} (h : j.outcome = .ok a) (f : α → Journal β) :
    (j >>= f).notices = j.notices ++ (f a).notices ∧ (j >>= f).outcome = (f a).outcome := by
  change (j.andThen f).notices = _ ∧ (j.andThen f).outcome = _
  simp [andThen, h]

theorem notices_bind_error {j : Journal α} {fault : Fault} (h : j.outcome = .error fault)
    (f : α → Journal β) :
    (j >>= f).notices = j.notices ∧ (j >>= f).outcome = .error fault := by
  change (j.andThen f).notices = _ ∧ (j.andThen f).outcome = _
  simp [andThen, h]

end Journal

end Excerpt
