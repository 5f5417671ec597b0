import Excerpt.Diagnostic

/-!
# Listeners

A listener hears the diagnostics of a computation one by one. It may refuse any of them, by any
fault and for whatever it has heard before, and this ends what is going on, unless the fault is
taken care of. Traces are only meant for a log; no listener hears them.

A computation in front of a listener is a session: how it goes on depends on what was told before
it. Two recorders need no more than the diagnostic itself: one keeps it, the other puts it into
words at once.

* `hear_keeping`: a listener that only keeps what it hears refuses nothing.
* `attempt_bind`: a session goes on behind a fault that is taken care of.
-/

namespace Excerpt

/-- The answer to a diagnostic, given those that were heard before: the fault by which it is
refused, if it is. -/
structure Listener where
  refuses : List Diagnostic → Diagnostic → Option Fault

namespace Listener

/-- Refuses nothing. -/
def keeping : Listener := ⟨fun _ _ => none⟩

/-- Refuses what cannot be put into words. -/
def wording : Listener :=
  ⟨fun _ diagnostic => if diagnostic.isUnwritable then some .numberTooLong else none⟩

/-- The fault by which a notice is refused behind others that were told. -/
def refusal? (listener : Listener) (told : List Notice) (notice : Notice) : Option Fault :=
  (Diagnostic.ofNotice? notice).bind (listener.refuses (told.filterMap Diagnostic.ofNotice?))

/-- The notices up to the first that is refused, and its fault. -/
def hear (listener : Listener) (told : List Notice) : List Notice → List Notice × Option Fault
  | [] => ([], none)
  | notice :: rest =>
    match listener.refusal? told notice with
    | some fault => ([], some fault)
    | none => ((listener.hear (told ++ [notice]) rest).map (notice :: ·) id)

theorem hear_keeping (told notices : List Notice) :
    keeping.hear told notices = (notices, none) := by
  induction notices generalizing told with
  | nil => rfl
  | cons notice rest ih =>
    have hHeard : keeping.refusal? told notice = none := by
      unfold refusal?
      cases Diagnostic.ofNotice? notice <;> rfl
    rw [hear, hHeard]
    dsimp only
    rw [ih]
    rfl

end Listener

/-- The recorders. -/
inductive Recorder where
  | keeping
  | wording
  deriving DecidableEq, Repr

/-- The recorder as a listener. -/
def Recorder.listener : Recorder → Listener
  | .keeping => .keeping
  | .wording => .wording

/-! ## Sessions -/

/-- A computation that depends on what was told before it. -/
def Session (α : Type) : Type := List Notice → Journal α

namespace Session

variable {α β : Type}

/-- One session, and behind it the one that its value calls for. -/
def andThen (s : Session α) (f : α → Session β) : Session β := fun told =>
  (s told).andThen fun a => f a (told ++ (s told).notices)

instance : Monad Session where
  pure a := fun _ => pure a
  bind := andThen

/-- A session that tells nothing. -/
def lift (outcome : Except Fault α) : Session α := fun _ => Journal.lift outcome

/-- The session whose value is how the given one ends. -/
def attempt (s : Session α) : Session (Except Fault α) := fun told =>
  ⟨(s told).notices, .ok (s told).outcome⟩

end Session

/-- The computation in front of a listener, which ends with the first notice that is refused. -/
def Journal.heardBy {α : Type} (listener : Listener) (j : Journal α) : Session α := fun told =>
  match listener.hear told j.notices with
  | (_, none) => j
  | (heard, some fault) => ⟨heard, .error fault⟩

namespace Session

variable {α β : Type}

@[simp] theorem pure_apply (a : α) (told : List Notice) : (pure a : Session α) told = pure a := rfl

@[simp] theorem lift_apply (outcome : Except Fault α) (told : List Notice) :
    lift outcome told = Journal.lift outcome := rfl

theorem lift_ok (a : α) : lift (.ok a) = pure a := rfl

theorem lift_error_bind (fault : Fault) (f : α → Session β) :
    lift (.error fault) >>= f = lift (.error fault) := rfl

theorem bind_apply (s : Session α) (f : α → Session β) (told : List Notice) :
    (s >>= f) told = s told >>= fun a => f a (told ++ (s told).notices) := rfl

theorem map_apply (f : α → β) (s : Session α) (told : List Notice) :
    (f <$> s) told = f <$> s told := rfl

/-- Nothing depends on how a session is put together from its parts. -/
instance : LawfulMonad Session := LawfulMonad.mk' Session
  (fun s => funext fun told => bind_pure (s told))
  (fun a f => by
    funext told
    have hTold : told ++ (pure a : Journal _).notices = told := List.append_nil told
    simp only [bind_apply, pure_apply, pure_bind, hTold])
  (fun s f g => by
    funext told
    rw [bind_apply, bind_apply, bind_apply, bind_assoc]
    change (s told).andThen _ = (s told).andThen _
    cases h : (s told).outcome with
    | error fault => simp only [Journal.andThen, h]
    | ok a =>
      have hTold := (Journal.notices_bind_ok h fun a => f a (told ++ (s told).notices)).1
      simp only [Journal.andThen, h, hTold]
      rw [bind_apply, List.append_assoc])

theorem attempt_bind (s : Session α) (f : Except Fault α → Session β) (told : List Notice) :
    (s.attempt >>= f) told =
      ⟨(s told).notices ++ (f (s told).outcome (told ++ (s told).notices)).notices,
        (f (s told).outcome (told ++ (s told).notices)).outcome⟩ := rfl

end Session

end Excerpt
