import Mathlib.Data.List.Basic

/-!
# Lists with Keys

A list whose elements have keys, read as a table: the first element with a key
is the entry for it. Replacing an entry leaves all others, and the order, as
they were.

## Main definitions

* `Keyed.get`: The entry for a key.
* `Keyed.set`: An element takes the place of the entry with its key.

## Theorems

* `get_set_self`, `get_set_of_ne`: What is found after a replacement.
* `set_self`: An entry that is replaced by itself.
* `get_append_singleton`: What is found after an addition.
-/

namespace Keyed

variable {α κ : Type} [DecidableEq κ] (key : α → κ)

/-- The entry for a key. -/
def get (entries : List α) (k : κ) : Option α := entries.find? fun x => key x = k

/-- An element takes the place of the entry with its key. -/
def set (x : α) : List α → List α
  | [] => []
  | y :: ys => if key y = key x then x :: ys else y :: set x ys

variable {key} {entries : List α} {k : κ} {x : α}

theorem key_of_get (h : get key entries k = some x) : key x = k := by
  have := List.find?_some h
  simpa using this

theorem mem_of_get (h : get key entries k = some x) : x ∈ entries := List.mem_of_find?_eq_some h

theorem get_set_self (h : (get key entries (key x)).isSome) :
    get key (set key x entries) (key x) = some x := by
  induction entries with
  | nil => cases h
  | cons y ys ih =>
    by_cases hy : key y = key x
    · simp [get, set, hy]
    · simp only [get, List.find?_cons, hy, decide_false] at h
      simpa only [get, set, hy, if_false, List.find?_cons, decide_false] using ih h

theorem get_set_of_ne (h : k ≠ key x) : get key (set key x entries) k = get key entries k := by
  induction entries with
  | nil => rfl
  | cons y ys ih =>
    by_cases hy : key y = key x
    · have hxk : ¬ key x = k := fun hk => h hk.symm
      simp [get, set, hy, hxk]
    · simp only [get, set, hy, if_false, List.find?_cons] at ih ⊢
      rw [ih]

theorem set_self (h : get key entries k = some x) : set key x entries = entries := by
  induction entries with
  | nil => rfl
  | cons y ys ih =>
    have hk := key_of_get h
    by_cases hy : key y = k
    · have hyx : y = x := by simpa [get, List.find?_cons, hy] using h
      simp [set, hyx]
    · have hne : ¬ key y = key x := fun h' => hy (h'.trans hk)
      simp only [get, List.find?_cons, hy, decide_false] at h
      simp only [set, hne, if_false, ih h]

theorem get_append_singleton :
    get key (entries ++ [x]) k = (get key entries k).or (if key x = k then some x else none) := by
  simp only [get, List.find?_append, List.find?_cons, List.find?_nil]
  by_cases hk : key x = k <;> simp [hk]

end Keyed
