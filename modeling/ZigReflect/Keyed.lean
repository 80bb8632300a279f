/-!
# Keyed lists

A list of pairs as a finite map: `List.lookup` reads it, and `Keyed.set` writes
it. A key that is there keeps its place, and a new key goes to the end, so the
order of a list is the order in which its keys first came.
-/

namespace ZigReflect.Keyed

variable {κ α : Type} [BEq κ]

/-- Sets a key, in its place or at the end. -/
def set : List (κ × α) → κ → α → List (κ × α)
  | [], key, a => [(key, a)]
  | (other, b) :: rest, key, a =>
    if key == other then (key, a) :: rest else (other, b) :: set rest key a

/-- A key that has been set is read back. -/
@[simp] theorem lookup_set_self [LawfulBEq κ] (xs : List (κ × α)) (key : κ) (a : α) :
    (set xs key a).lookup key = some a := by
  induction xs with
  | nil => simp [set]
  | cons x rest ih =>
    obtain ⟨other, b⟩ := x
    by_cases h : key == other
    · simp [set, h]
    · simp [set, h, List.lookup_cons, ih]

/-- Setting a key leaves all others. -/
theorem lookup_set_of_ne [LawfulBEq κ] (xs : List (κ × α)) {key k : κ} (a : α) (hk : k ≠ key) :
    (set xs key a).lookup k = xs.lookup k := by
  have hb : (k == key) = false := by simpa using hk
  induction xs with
  | nil => simp [set, List.lookup_cons, hb]
  | cons x rest ih =>
    obtain ⟨other, b⟩ := x
    by_cases h : key == other
    · have : key = other := by simpa using h
      subst this
      simp [set, List.lookup_cons, hb]
    · simp [set, h, List.lookup_cons, ih]

end ZigReflect.Keyed
