/-!
# Tables

A table keeps values under keys, in the order in which the keys came. What is put under a key
takes the place of what was there.

* `lookup_put_self`, `lookup_put_of_ne`: what is found behind a value that was put.
* `lookup_remove_self`, `lookup_remove_of_ne`: what is found behind a key that was removed.
-/

namespace Excerpt

/-- Values by key; the first entry for a key is the only one. -/
abbrev Table (κ α : Type) := List (κ × α)

namespace Table

variable {κ α : Type} [BEq κ]

/-- The table with another value under a key. -/
def put (table : Table κ α) (key : κ) (value : α) : Table κ α :=
  if (table.lookup key).isSome then
    table.map fun entry => if entry.1 == key then (key, value) else entry
  else table ++ [(key, value)]

/-- The table with nothing under a key. -/
def remove (table : Table κ α) (key : κ) : Table κ α := table.filter fun entry => entry.1 != key

variable [LawfulBEq κ] {key other : κ}

theorem lookup_map_put {table : Table κ α} (value : α) (h : (table.lookup key).isSome = true) :
    (table.map fun entry => if entry.1 == key then (key, value) else entry).lookup key =
      some value := by
  induction table with
  | nil => simp at h
  | cons entry rest ih =>
    obtain ⟨first, held⟩ := entry
    by_cases hk : first = key
    · simp [hk]
    · have hne : (key == first) = false := by simpa using fun hEq => hk hEq.symm
      simp only [List.lookup_cons, hne] at h
      simp [hk, List.lookup_cons, hne, ih h]

theorem lookup_append_new {table : Table κ α} (value : α) (h : (table.lookup key).isSome = false) :
    (table ++ [(key, value)]).lookup key = some value := by
  induction table with
  | nil => simp
  | cons entry rest ih =>
    obtain ⟨first, held⟩ := entry
    cases hk : key == first with
    | true => simp [List.lookup_cons, hk] at h
    | false =>
      simp only [List.lookup_cons, hk] at h
      simp [List.lookup_cons, hk, ih h]

theorem lookup_put_self (table : Table κ α) (key : κ) (value : α) :
    (table.put key value).lookup key = some value := by
  unfold put
  split
  · rename_i h
    exact lookup_map_put value h
  · rename_i h
    exact lookup_append_new value (Bool.eq_false_iff.mpr h)

theorem lookup_map_put_of_ne (h : other ≠ key) (table : Table κ α) (value : α) :
    (table.map fun entry => if entry.1 == key then (key, value) else entry).lookup other =
      table.lookup other := by
  have hne : (other == key) = false := beq_eq_false_iff_ne.mpr h
  induction table with
  | nil => rfl
  | cons entry rest ih =>
    obtain ⟨first, held⟩ := entry
    by_cases hk : first = key
    · simp [List.lookup_cons, hk, hne, ih]
    · simp [List.lookup_cons, hk, ih]

theorem lookup_put_of_ne (h : other ≠ key) (table : Table κ α) (value : α) :
    (table.put key value).lookup other = table.lookup other := by
  unfold put
  split
  · exact lookup_map_put_of_ne h table value
  · rw [List.lookup_append]
    simp [List.lookup_cons, beq_eq_false_iff_ne.mpr h]

theorem lookup_remove_self (table : Table κ α) (key : κ) :
    (table.remove key).lookup key = none := by
  rw [List.lookup_eq_none_iff]
  intro entry hEntry
  rw [bne_iff_ne]
  exact (bne_iff_ne.mp (List.mem_filter.mp hEntry).2).symm

theorem lookup_remove_of_ne (h : other ≠ key) (table : Table κ α) :
    (table.remove key).lookup other = table.lookup other := by
  unfold remove
  induction table with
  | nil => rfl
  | cons entry rest ih =>
    obtain ⟨first, held⟩ := entry
    by_cases hk : first = key
    · simp [List.lookup_cons, hk, beq_eq_false_iff_ne.mpr h, ih]
    · simp [List.lookup_cons, hk, ih]

end Table

end Excerpt
