import Excerpt.Journal
import Mathlib.Data.List.Forall2

/-!
# Outcomes

The outcome of a journal goes through its computations as if nothing were told, and what is told
goes through them as if only the notices counted. Two outcomes are alike if they are the same value
or faults of one kind.

* `bind_eq_ok_iff`, `bind_eq_error_iff`: the results of one computation behind another.
* `mapM_eq_ok_iff`, `mapM_eq_ok_iff_of_mem`, `mapM_ok`, `mapM_eq_error_iff`: a computation for every
  member of a list.
* `forall₂_filter_of_mapM`: a computation that keeps some members of a list.
* `Journal.outcome_bind`: the outcome of two computations, one behind the other.
* `Journal.tells_bind`, `Journal.tells_mapM`, `Journal.tells_foldlM`: what all notices have in
  common, from what those of the parts have.
* `failsBy_bind`, `failsBy_mapM`: what all faults have in common, likewise.
* `alike_bind`, `alike_mapM_of_forall₂`: computations whose parts are alike are alike.
-/

namespace Excerpt

/-! ## Results of `Except` -/

theorem bind_eq_ok_iff {ε α β : Type} {x : Except ε α} {f : α → Except ε β} {b : β} :
    x >>= f = .ok b ↔ ∃ a, x = .ok a ∧ f a = .ok b := by
  cases x with
  | error e => simp [bind, Except.bind]
  | ok a => simp [bind, Except.bind]

theorem bind_eq_error_iff {ε α β : Type} {x : Except ε α} {f : α → Except ε β} {e : ε} :
    x >>= f = .error e ↔ x = .error e ∨ ∃ a, x = .ok a ∧ f a = .error e := by
  cases x with
  | error e => simp [bind, Except.bind]
  | ok a => simp [bind, Except.bind]

theorem map_eq_ok_iff {ε α β : Type} {x : Except ε α} {f : α → β} {b : β} :
    x.map f = .ok b ↔ ∃ a, x = .ok a ∧ f a = b := by
  cases x <;> simp [Except.map]

theorem map_eq_error_iff {ε α β : Type} {x : Except ε α} {f : α → β} {e : ε} :
    x.map f = .error e ↔ x = .error e := by
  cases x <;> simp [Except.map]

theorem mapError_eq_ok_iff {ε ε' α : Type} {x : Except ε α} {f : ε → ε'} {a : α} :
    x.mapError f = .ok a ↔ x = .ok a := by
  cases x <;> simp [Except.mapError]

/-- A computation for the members of a list fails as it fails for the first of them for which it
does. -/
theorem mapM_eq_error_iff {ε α β : Type} {f : α → Except ε β} {xs : List α} {e : ε} :
    xs.mapM f = .error e ↔ ∃ before a behind, xs = before ++ a :: behind ∧
      (∀ b ∈ before, ∃ y, f b = .ok y) ∧ f a = .error e := by
  induction xs with
  | nil =>
    refine iff_of_false nofun ?_
    rintro ⟨before, a, behind, hSplit, -⟩
    cases before <;> cases hSplit
  | cons first rest ih =>
    simp only [List.mapM_cons, bind_eq_error_iff, ih]
    constructor
    · rintro (hFirst | ⟨y, hFirst, ⟨before, a, behind, rfl, hBefore, ha⟩ | ⟨_, _, ⟨⟩⟩⟩)
      · exact ⟨[], first, rest, rfl, nofun, hFirst⟩
      · refine ⟨first :: before, a, behind, rfl, ?_, ha⟩
        exact List.forall_mem_cons.mpr ⟨⟨y, hFirst⟩, hBefore⟩
    · rintro ⟨_ | ⟨b, before⟩, a, behind, hSplit, hBefore, ha⟩
      · cases hSplit
        exact .inl ha
      · cases hSplit
        obtain ⟨⟨y, hFirst⟩, hBefore⟩ := List.forall_mem_cons.mp hBefore
        exact .inr ⟨y, hFirst, .inl ⟨before, a, behind, rfl, hBefore, ha⟩⟩

theorem error_of_mapM {ε α β : Type} {f : α → Except ε β} {xs : List α} {e : ε}
    (h : xs.mapM f = .error e) : ∃ a ∈ xs, f a = .error e := by
  obtain ⟨before, a, behind, rfl, -, ha⟩ := mapM_eq_error_iff.mp h
  exact ⟨a, by simp, ha⟩

theorem mapM_eq_ok_iff {ε α β : Type} {f : α → Except ε β} {xs : List α} {ys : List β} :
    xs.mapM f = .ok ys ↔ List.Forall₂ (fun a b => f a = .ok b) xs ys := by
  induction xs generalizing ys with
  | nil =>
    rw [List.mapM_nil, List.forall₂_nil_left_iff]
    exact ⟨fun h => (Except.ok.inj h).symm, fun h => h ▸ rfl⟩
  | cons a rest ih =>
    rw [List.mapM_cons]
    constructor
    · intro h
      obtain ⟨b, hb, h⟩ := bind_eq_ok_iff.mp h
      obtain ⟨bs, hbs, h⟩ := bind_eq_ok_iff.mp h
      cases h
      exact .cons hb (ih.mp hbs)
    · intro h
      obtain ⟨b, bs, hb, hbs, rfl⟩ := List.forall₂_cons_left_iff.mp h
      rw [hb, ih.mpr hbs]
      rfl

/-- A computation that follows a relation on the members of a list follows it on the list. -/
theorem mapM_eq_ok_iff_of_mem {ε α β : Type} {f : α → Except ε β} {R : α → β → Prop} {xs : List α}
    (h : ∀ a ∈ xs, ∀ b, f a = .ok b ↔ R a b) {ys : List β} :
    xs.mapM f = .ok ys ↔ List.Forall₂ R xs ys := by
  rw [mapM_eq_ok_iff]
  constructor
  · intro hAll
    have hBoth := (List.forall₂_and_left xs ys).mpr ⟨h, hAll⟩
    exact hBoth.imp fun a b hPair => (hPair.1 b).mp hPair.2
  · intro hAll
    have hBoth := (List.forall₂_and_left xs ys).mpr ⟨h, hAll⟩
    exact hBoth.imp fun a b hPair => (hPair.1 b).mpr hPair.2

theorem exists_of_forall₂ {α β : Type} {R : α → β → Prop} {xs : List α} {ys : List β}
    (h : List.Forall₂ R xs ys) {a : α} (ha : a ∈ xs) : ∃ b ∈ ys, R a b := by
  induction h with
  | nil => cases ha
  | cons hFirst _ ih =>
    rcases List.mem_cons.mp ha with rfl | ha
    · exact ⟨_, List.mem_cons_self, hFirst⟩
    · obtain ⟨b, hb, hf⟩ := ih ha
      exact ⟨b, List.mem_cons_of_mem _ hb, hf⟩

theorem ok_of_mapM {ε α β : Type} {f : α → Except ε β} {xs : List α} {ys : List β}
    (h : xs.mapM f = .ok ys) {a : α} (ha : a ∈ xs) : ∃ b ∈ ys, f a = .ok b :=
  exists_of_forall₂ (mapM_eq_ok_iff.mp h) ha

theorem mapM_ok {ε α β : Type} {f : α → Except ε β} {xs : List α}
    (h : ∀ a ∈ xs, ∃ b, f a = .ok b) : ∃ ys, xs.mapM f = .ok ys := by
  cases hAll : xs.mapM f with
  | ok ys => exact ⟨ys, rfl⟩
  | error e =>
    obtain ⟨a, ha, hf⟩ := error_of_mapM hAll
    obtain ⟨b, hb⟩ := h a ha
    rw [hb] at hf
    cases hf

/-- Members that are done with alike come to results that are alike. -/
theorem mapM_of_forall₂ {ε α β : Type} {f f' : α → Except ε β} {g : β → β} {xs xs' : List α}
    (hEach : List.Forall₂ (fun a a' => ∀ b, f a = .ok b → f' a' = .ok (g b)) xs xs') {ys : List β}
    (h : xs.mapM f = .ok ys) : xs'.mapM f' = .ok (ys.map g) := by
  have hAll := mapM_eq_ok_iff.mp h
  clear h
  rw [mapM_eq_ok_iff]
  induction hEach generalizing ys with
  | nil =>
    obtain rfl := List.forall₂_nil_left_iff.mp hAll
    exact .nil
  | cons hFirst _ ih =>
    obtain ⟨b, bs, hb, hbs, rfl⟩ := List.forall₂_cons_left_iff.mp hAll
    exact .cons (hFirst b hb) (ih hbs)

theorem exists_forall₂ {α β : Type} {R : α → β → Prop} {xs : List α}
    (h : ∀ a ∈ xs, ∃ b, R a b) : ∃ ys, List.Forall₂ R xs ys := by
  induction xs with
  | nil => exact ⟨[], .nil⟩
  | cons a xs ih =>
    obtain ⟨hFirst, hRest⟩ := List.forall_mem_cons.mp h
    obtain ⟨b, hb⟩ := hFirst
    obtain ⟨bs, hbs⟩ := ih hRest
    exact ⟨b :: bs, .cons hb hbs⟩

/-- What is kept of a list comes from the members that are kept, in their order. -/
theorem forall₂_filter_of_mapM {ε α β : Type} {f : α → Except ε (Option β)} {keeps : α → Bool}
    {xs : List α} {ys : List (Option β)} (hKeeps : ∀ a, f a = .ok none ↔ keeps a = false)
    (h : xs.mapM f = .ok ys) :
    List.Forall₂ (fun a b => f a = .ok (some b)) (xs.filter keeps) (ys.filterMap id) := by
  have hAll := mapM_eq_ok_iff.mp h
  clear h
  induction hAll with
  | nil => exact .nil
  | @cons a y xs ys hFirst _ ih =>
    cases y with
    | none =>
      rw [List.filter_cons_of_neg (by simp [(hKeeps a).mp hFirst])]
      exact ih
    | some b =>
      have hKept : keeps a = true := by
        rw [← Bool.not_eq_false]
        intro hDropped
        cases hFirst.symm.trans ((hKeeps a).mpr hDropped)
      rw [List.filter_cons_of_pos hKept]
      exact .cons hFirst ih

/-- Only what is done with the members of a list counts. -/
theorem mapM_congr_mem {m : Type → Type} [Monad m] [LawfulMonad m] {α β : Type} {f g : α → m β}
    {xs : List α} (h : ∀ a ∈ xs, f a = g a) : xs.mapM f = xs.mapM g := by
  induction xs with
  | nil => rfl
  | cons a rest ih =>
    rw [List.mapM_cons, List.mapM_cons, h a List.mem_cons_self,
      ih fun a' ha' => h a' (List.mem_cons_of_mem _ ha')]

theorem map_mapM {m : Type → Type} [Monad m] [LawfulMonad m] {α β γ : Type} (g : β → γ)
    (f : α → m β) (xs : List α) : (xs.mapM fun a => g <$> f a) = List.map g <$> xs.mapM f := by
  induction xs with
  | nil => simp
  | cons a rest ih => simp [List.mapM_cons, ih]

namespace Journal

variable {α β : Type}

/-! ## Outcomes of journals -/

theorem lift_ok (a : α) : lift (.ok a) = pure a := rfl

theorem lift_error_bind (fault : Fault) (f : α → Journal β) :
    lift (.error fault) >>= f = fail fault := rfl

theorem map_eq (f : α → β) (j : Journal α) : f <$> j = ⟨j.notices, j.outcome.map f⟩ := by
  rw [map_eq_pure_bind]
  change j.andThen (fun a => ⟨[], .ok (f a)⟩) = _
  obtain ⟨notices, outcome⟩ := j
  cases outcome <;> simp [andThen, Except.map]

@[simp] theorem outcome_pure (a : α) : (pure a : Journal α).outcome = .ok a := rfl

@[simp] theorem outcome_lift (x : Except Fault α) : (lift x).outcome = x := rfl

@[simp] theorem outcome_tell (n : Notice) : (tell n).outcome = .ok () := rfl

@[simp] theorem outcome_bind (j : Journal α) (f : α → Journal β) :
    (j >>= f).outcome = j.outcome >>= fun a => (f a).outcome := by
  cases h : j.outcome with
  | error fault => exact (notices_bind_error h f).2
  | ok a => exact (notices_bind_ok h f).2

@[simp] theorem outcome_mapM (f : α → Journal β) (xs : List α) :
    (xs.mapM f).outcome = xs.mapM fun a => (f a).outcome := by
  induction xs with
  | nil => rfl
  | cons a rest ih =>
    rw [List.mapM_cons, List.mapM_cons]
    simp only [outcome_bind, ih]
    rfl

@[simp] theorem outcome_foldlM (f : β → α → Journal β) (b : β) (xs : List α) :
    (xs.foldlM f b).outcome = xs.foldlM (fun b a => (f b a).outcome) b := by
  induction xs generalizing b with
  | nil => rfl
  | cons a rest ih => simp [List.foldlM_cons, ih]

/-! ## What is told -/

/-- Whether all notices of a computation have the property. -/
def Tells (P : Notice → Prop) (j : Journal α) : Prop := ∀ n ∈ j.notices, P n

variable {P : Notice → Prop}

theorem tells_pure (a : α) : Tells P (pure a) := by
  intro n hn
  cases hn

theorem tells_lift (x : Except Fault α) : Tells P (lift x) := by
  intro n hn
  cases hn

theorem tells_fail (fault : Fault) : Tells P (fail fault : Journal α) := by
  intro n hn
  cases hn

theorem tells_tell {n : Notice} (h : P n) : Tells P (tell n) := by
  intro m hm
  rw [List.mem_singleton.mp hm]
  exact h

theorem tells_bind {j : Journal α} {f : α → Journal β} (hj : Tells P j)
    (hf : ∀ a, j.outcome = .ok a → Tells P (f a)) : Tells P (j >>= f) := by
  intro n hn
  cases h : j.outcome with
  | error fault =>
    rw [(notices_bind_error h f).1] at hn
    exact hj n hn
  | ok a =>
    rw [(notices_bind_ok h f).1] at hn
    rcases List.mem_append.mp hn with hn | hn
    · exact hj n hn
    · exact hf a h n hn

theorem tells_mapM {f : α → Journal β} (xs : List α) (hf : ∀ a ∈ xs, Tells P (f a)) :
    Tells P (xs.mapM f) := by
  induction xs with
  | nil => exact tells_pure _
  | cons a rest ih =>
    rw [List.mapM_cons]
    refine tells_bind (hf a List.mem_cons_self) fun b _ => ?_
    refine tells_bind (ih fun a' ha' => hf a' (List.mem_cons_of_mem _ ha')) fun bs _ => ?_
    exact tells_pure _

theorem tells_foldlM {f : β → α → Journal β} (xs : List α) (hf : ∀ b a, Tells P (f b a))
    (b : β) : Tells P (xs.foldlM f b) := by
  induction xs generalizing b with
  | nil => exact tells_pure _
  | cons a rest ih =>
    rw [List.foldlM_cons]
    exact tells_bind (hf b a) fun b' _ => ih b'

end Journal

/-! ## Faults -/

/-- Whether all faults with which a computation can end have the property. -/
def FailsBy {α : Type} (P : Fault → Prop) (x : Except Fault α) : Prop :=
  ∀ fault, x = .error fault → P fault

section

variable {α β : Type} {P Q : Fault → Prop}

theorem failsBy_ok (a : α) : FailsBy P (.ok a) := by
  intro fault h
  cases h

theorem failsBy_error {fault : Fault} (h : P fault) :
    FailsBy P (.error fault : Except Fault α) := by
  intro fault' h'
  cases h'
  exact h

theorem FailsBy.mono {x : Except Fault α} (hx : FailsBy P x) (h : ∀ fault, P fault → Q fault) :
    FailsBy Q x :=
  fun fault hFault => h fault (hx fault hFault)

theorem failsBy_bind {x : Except Fault α} {f : α → Except Fault β} (hx : FailsBy P x)
    (hf : ∀ a, x = .ok a → FailsBy P (f a)) : FailsBy P (x >>= f) := by
  cases x with
  | error fault => exact failsBy_error (hx fault rfl)
  | ok a => exact hf a rfl

theorem failsBy_map {x : Except Fault α} (hx : FailsBy P x) (f : α → β) : FailsBy P (x.map f) :=
  failsBy_bind hx fun a _ => failsBy_ok (f a)

theorem failsBy_mapM {f : α → Except Fault β} {xs : List α} (h : ∀ a ∈ xs, FailsBy P (f a)) :
    FailsBy P (xs.mapM f) := by
  intro fault hFault
  obtain ⟨a, ha, hf⟩ := error_of_mapM hFault
  exact h a ha fault hf

theorem failsBy_foldlM {f : β → α → Except Fault β} {xs : List α}
    (h : ∀ b, ∀ a ∈ xs, FailsBy P (f b a)) (b : β) : FailsBy P (xs.foldlM f b) := by
  induction xs generalizing b with
  | nil => exact failsBy_ok b
  | cons a rest ih =>
    rw [List.foldlM_cons]
    refine failsBy_bind (h b a List.mem_cons_self) fun b' _ => ?_
    exact ih (fun b'' a' ha' => h b'' a' (List.mem_cons_of_mem _ ha')) b'

end

/-! ## Alike outcomes -/

/-- The same value, or faults of one kind. -/
def Alike {α : Type} (x y : Except Fault α) : Prop :=
  x.mapError Fault.kind = y.mapError Fault.kind

section

variable {α β : Type}

theorem alike_refl (x : Except Fault α) : Alike x x := rfl

theorem Alike.symm {x y : Except Fault α} (h : Alike x y) : Alike y x := Eq.symm h

theorem alike_ok_iff {a b : α} : Alike (.ok a) (.ok b) ↔ a = b := by
  simp [Alike, Except.mapError]

theorem alike_error_iff {f g : Fault} :
    Alike (.error f : Except Fault α) (.error g) ↔ f.kind = g.kind := by
  simp [Alike, Except.mapError]

theorem not_alike_ok_error {a : α} {f : Fault} : ¬ Alike (.ok a) (.error f) := by
  simp [Alike, Except.mapError]

theorem alike_bind {x y : Except Fault α} {f g : α → Except Fault β} (h : Alike x y)
    (hf : ∀ a, x = .ok a → Alike (f a) (g a)) : Alike (x >>= f) (y >>= g) := by
  cases x with
  | error e =>
    cases y with
    | error e' => exact alike_error_iff.mpr (alike_error_iff.mp h)
    | ok b => exact absurd h.symm not_alike_ok_error
  | ok a =>
    cases y with
    | error e' => exact absurd h not_alike_ok_error
    | ok b =>
      obtain rfl := alike_ok_iff.mp h
      exact hf a rfl

theorem alike_map {x y : Except Fault α} (h : Alike x y) (f : α → β) :
    Alike (x.map f) (y.map f) :=
  alike_bind h fun a _ => alike_refl (.ok (f a))

/-- Members that are done with alike, one by one, come to results that are alike. -/
theorem alike_mapM_of_forall₂ {γ : Type} {f : α → Except Fault β} {g : γ → Except Fault β}
    {xs : List α} {ys : List γ} (h : List.Forall₂ (fun a b => Alike (f a) (g b)) xs ys) :
    Alike (xs.mapM f) (ys.mapM g) := by
  induction h with
  | nil => exact alike_refl _
  | cons hFirst _ ih =>
    rw [List.mapM_cons, List.mapM_cons]
    refine alike_bind hFirst fun b _ => ?_
    refine alike_bind ih fun bs _ => ?_
    exact alike_refl _

theorem alike_mapM {f g : α → Except Fault β} (xs : List α) (h : ∀ a ∈ xs, Alike (f a) (g a)) :
    Alike (xs.mapM f) (xs.mapM g) :=
  alike_mapM_of_forall₂ (List.forall₂_same.mpr h)

end

end Excerpt
