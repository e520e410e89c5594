import Mathlib.Data.List.Forall2
import Mathlib.Data.List.Nodup
import Mathlib.Data.List.Sort

/-!
# Loops That Can Fail

A checker is a chain of computations, any of which can fail. What such a chain
returns is what its parts return, and a loop over a list succeeds if every
iteration does. `List.Forall₂` says which element has which result.

Many loops also refuse a key that occurred before. `distinctBy` is such a loop.
It finds the key of an element, compares it with the keys before, and goes on
with the element. Which part of the work stands before the comparison and which
after it differs from program to program; what the loop accepts does not depend
on it.

## Main definitions

* `Fallible.distinctBy`: A loop that refuses a key that occurred before.

## Theorems

* `bind_eq_ok`, `map_eq_ok`: When a chain succeeds.
* `mapM_eq_ok`, `mapM_eq_some`: When a loop succeeds.
* `distinctBy_eq_ok`: When a loop that refuses keys succeeds.
* `distinctBy_keys`: When a loop over keys succeeds.
* `mapM_insertionSort_eq_ok`: Sorting before a loop is sorting its results.
* `exists_forall₂`, `forall₂_pairwise`, `forall₂_covers`: Results can be compared
  in place of elements.
-/

namespace Fallible

open List

variable {α β γ ε κ : Type}

theorem bind_eq_ok {x : Except ε α} {f : α → Except ε β} {b : β} :
    (x >>= f) = .ok b ↔ ∃ a, x = .ok a ∧ f a = .ok b := by
  cases x with
  | error e => exact ⟨nofun, nofun⟩
  | ok a =>
    refine ⟨fun h => ⟨a, rfl, h⟩, ?_⟩
    rintro ⟨a', ha', h⟩
    cases ha'
    exact h

theorem guard_eq_ok {p : Prop} [Decidable p] {e : ε} {x : Except ε α} {a : α} :
    (if p then .error e else x) = .ok a ↔ ¬ p ∧ x = .ok a := by
  by_cases hp : p <;> simp [hp]

theorem map_eq_ok {x : Except ε α} {f : α → β} {b : β} :
    (f <$> x) = .ok b ↔ ∃ a, x = .ok a ∧ f a = b := by
  cases x with
  | error e => exact ⟨nofun, nofun⟩
  | ok a =>
    refine ⟨fun h => ⟨a, rfl, Except.ok.inj h⟩, ?_⟩
    rintro ⟨a', ha', rfl⟩
    cases ha'
    rfl

variable {xs : List α} {ys : List β}

theorem mapM_eq_ok {f : α → Except ε β} :
    xs.mapM f = .ok ys ↔ List.Forall₂ (fun x y => f x = .ok y) xs ys := by
  induction xs generalizing ys with
  | nil =>
    rw [mapM_nil, forall₂_nil_left_iff]
    exact ⟨fun h => (Except.ok.inj h).symm, fun h => by rw [h]; rfl⟩
  | cons x xs ih =>
    rw [mapM_cons, bind_eq_ok, forall₂_cons_left_iff]
    constructor
    · rintro ⟨y, hy, h⟩
      obtain ⟨ys', hys', h⟩ := bind_eq_ok.mp h
      exact ⟨y, ys', hy, ih.mp hys', (Except.ok.inj h).symm⟩
    · rintro ⟨y, ys', hy, hys', rfl⟩
      exact ⟨y, hy, bind_eq_ok.mpr ⟨ys', ih.mpr hys', rfl⟩⟩

theorem mapM_eq_some {f : α → Option β} :
    xs.mapM f = some ys ↔ List.Forall₂ (fun x y => f x = some y) xs ys := by
  induction xs generalizing ys with
  | nil =>
    rw [mapM_nil, forall₂_nil_left_iff]
    exact ⟨fun h => (Option.some.inj h).symm, fun h => by rw [h]; rfl⟩
  | cons x xs ih =>
    rw [mapM_cons, forall₂_cons_left_iff]
    change ((f x).bind fun y => (xs.mapM f).bind fun ys => some (y :: ys)) = some ys ↔ _
    rw [Option.bind_eq_some_iff]
    constructor
    · rintro ⟨y, hy, h⟩
      obtain ⟨ys', hys', h⟩ := Option.bind_eq_some_iff.mp h
      exact ⟨y, ys', hy, ih.mp hys', (Option.some.inj h).symm⟩
    · rintro ⟨y, ys', hy, hys', rfl⟩
      exact ⟨y, hy, Option.bind_eq_some_iff.mpr ⟨ys', ih.mpr hys', rfl⟩⟩

/-! ### Comparing results in place of elements -/

variable {R : α → β → Prop}

theorem exists_forall₂ (h : ∀ x ∈ xs, ∃ y, R x y) :
    ∃ ys, List.Forall₂ R xs ys := by
  induction xs with
  | nil => exact ⟨[], .nil⟩
  | cons x xs ih =>
    obtain ⟨y, hy⟩ := h x mem_cons_self
    obtain ⟨ys, hys⟩ := ih fun x hx => h x (mem_cons_of_mem _ hx)
    exact ⟨y :: ys, .cons hy hys⟩

theorem forall₂_congr_left {R S : α → β → Prop}
    (h : ∀ x ∈ xs, ∀ y, R x y ↔ S x y) : List.Forall₂ R xs ys ↔ List.Forall₂ S xs ys := by
  induction xs generalizing ys with
  | nil => cases ys <;> simp
  | cons x xs ih =>
    cases ys with
    | nil => simp
    | cons y ys =>
      rw [forall₂_cons, forall₂_cons, h x mem_cons_self,
        ih fun x hx => h x (mem_cons_of_mem _ hx)]

theorem exists_of_mem_left
    (h : List.Forall₂ R xs ys) {x : α} (hx : x ∈ xs) : ∃ y ∈ ys, R x y := by
  induction h with
  | nil => cases hx
  | cons hxy _ ih =>
    rcases mem_cons.mp hx with rfl | hx
    · exact ⟨_, mem_cons_self, hxy⟩
    · obtain ⟨y, hy, hR⟩ := ih hx
      exact ⟨y, mem_cons_of_mem _ hy, hR⟩

theorem exists_of_mem_right
    (h : List.Forall₂ R xs ys) {y : β} (hy : y ∈ ys) : ∃ x ∈ xs, R x y := by
  obtain ⟨x, hx, hR⟩ := exists_of_mem_left h.flip hy
  exact ⟨x, hx, hR⟩

theorem forall₂_map_eq {f : α → γ} {g : β → γ}
    (h : List.Forall₂ R xs ys) (hR : ∀ x y, R x y → f x = g y) : xs.map f = ys.map g := by
  induction h with
  | nil => rfl
  | cons hxy _ ih => rw [map_cons, map_cons, hR _ _ hxy, ih]

/-- Two relations that agree on corresponding elements hold pairwise together. -/
theorem forall₂_pairwise {S : α → α → Prop} {T : β → β → Prop} (h : List.Forall₂ R xs ys)
    (hST : ∀ x ∈ xs, ∀ x' ∈ xs, ∀ y y', R x y → R x' y' → (S x x' ↔ T y y')) :
    xs.Pairwise S ↔ ys.Pairwise T := by
  induction h with
  | nil => exact ⟨fun _ => .nil, fun _ => .nil⟩
  | @cons x y xs ys hxy hall ih =>
    have ih' := ih fun x hx x' hx' => hST x (mem_cons_of_mem _ hx) x'
      (mem_cons_of_mem _ hx')
    have hhead : (∀ x' ∈ xs, S x x') ↔ ∀ y' ∈ ys, T y y' := by
      constructor
      · intro hS y' hy'
        obtain ⟨x', hx', hR⟩ := exists_of_mem_right hall hy'
        exact (hST x mem_cons_self x' (mem_cons_of_mem _ hx') y y' hxy hR).mp
          (hS x' hx')
      · intro hT x' hx'
        obtain ⟨y', hy', hR⟩ := exists_of_mem_left hall hx'
        exact (hST x mem_cons_self x' (mem_cons_of_mem _ hx') y y' hxy hR).mpr
          (hT y' hy')
    rw [pairwise_cons, pairwise_cons, hhead, ih']

/-- Every element of a list has a partner in another one. -/
def Covers (S : α → β → Prop) (xs : List α) (ys : List β) : Prop :=
  (∀ x ∈ xs, ∃ y ∈ ys, S x y) ∧ ∀ y ∈ ys, ∃ x ∈ xs, S x y

theorem forall₂_covers {δ : Type} {R' : γ → δ → Prop} {S : α → γ → Prop}
    {T : β → δ → Prop} {us : List γ} {vs : List δ}
    (h : List.Forall₂ R xs ys) (h' : List.Forall₂ R' us vs)
    (hST : ∀ x ∈ xs, ∀ u ∈ us, ∀ y v, R x y → R' u v → (S x u ↔ T y v)) :
    Covers S xs us ↔ Covers T ys vs := by
  constructor
  · rintro ⟨hxs, hus⟩
    constructor
    · intro y hy
      obtain ⟨x, hx, hR⟩ := exists_of_mem_right h hy
      obtain ⟨u, hu, hS⟩ := hxs x hx
      obtain ⟨v, hv, hR'⟩ := exists_of_mem_left h' hu
      exact ⟨v, hv, (hST x hx u hu y v hR hR').mp hS⟩
    · intro v hv
      obtain ⟨u, hu, hR'⟩ := exists_of_mem_right h' hv
      obtain ⟨x, hx, hS⟩ := hus u hu
      obtain ⟨y, hy, hR⟩ := exists_of_mem_left h hx
      exact ⟨y, hy, (hST x hx u hu y v hR hR').mp hS⟩
  · rintro ⟨hys, hvs⟩
    constructor
    · intro x hx
      obtain ⟨y, hy, hR⟩ := exists_of_mem_left h hx
      obtain ⟨v, hv, hT⟩ := hys y hy
      obtain ⟨u, hu, hR'⟩ := exists_of_mem_right h' hv
      exact ⟨u, hu, (hST x hx u hu y v hR hR').mpr hT⟩
    · intro u hu
      obtain ⟨v, hv, hR'⟩ := exists_of_mem_left h' hu
      obtain ⟨y, hy, hT⟩ := hvs v hv
      obtain ⟨x, hx, hR⟩ := exists_of_mem_right h hy
      exact ⟨x, hx, (hST x hx u hu y v hR hR').mpr hT⟩

variable [DecidableEq κ]

/-- A loop that refuses a key that occurred before. `find` is what it does with
    an element before it compares the key, and `finish` what it does after. -/
def distinctBy (find : α → Except ε (κ × β)) (duplicate : ε) (finish : β → Except ε γ) :
    List κ → List α → Except ε (List (κ × γ))
  | _, [] => .ok []
  | seen, x :: xs => do
    let (k, b) ← find x
    if k ∈ seen then .error duplicate
    else do
      let c ← finish b
      let more ← distinctBy find duplicate finish (k :: seen) xs
      .ok ((k, c) :: more)

/-- The loop succeeds if both parts of every iteration do and the keys are
    new and different. -/
theorem distinctBy_eq_ok {find : α → Except ε (κ × β)} {duplicate : ε} {finish : β → Except ε γ}
    {seen : List κ} {out : List (κ × γ)} :
    distinctBy find duplicate finish seen xs = .ok out ↔
      List.Forall₂ (fun x o => ∃ b, find x = .ok (o.1, b) ∧ finish b = .ok o.2) xs out ∧
        (out.map (·.1)).Nodup ∧ ∀ o ∈ out, o.1 ∉ seen := by
  induction xs generalizing seen out with
  | nil =>
    rw [distinctBy, forall₂_nil_left_iff]
    constructor
    · intro h
      cases h
      exact ⟨rfl, nodup_nil, nofun⟩
    · rintro ⟨rfl, -⟩
      rfl
  | cons x xs ih =>
    rw [distinctBy, bind_eq_ok]
    constructor
    · rintro ⟨⟨k, b⟩, hfind, h⟩
      by_cases hk : k ∈ seen
      · simp [hk] at h
      · simp only [hk, if_false] at h
        obtain ⟨c, hfinish, h⟩ := bind_eq_ok.mp h
        obtain ⟨more, hmore, h⟩ := bind_eq_ok.mp h
        cases h
        obtain ⟨hall, hnodup, hnew⟩ := ih.mp hmore
        refine ⟨.cons ⟨b, hfind, hfinish⟩ hall, ?_, ?_⟩
        · rw [map_cons, nodup_cons]
          refine ⟨?_, hnodup⟩
          rintro hmem
          obtain ⟨o, ho, hok⟩ := mem_map.mp hmem
          exact hnew o ho (hok ▸ mem_cons_self)
        · intro o ho
          rcases mem_cons.mp ho with rfl | ho
          · exact hk
          · exact fun hseen => hnew o ho (mem_cons_of_mem _ hseen)
    · rintro ⟨hall, hnodup, hnew⟩
      obtain ⟨⟨k, c⟩, more, ⟨b, hfind, hfinish⟩, htail, rfl⟩ :=
        forall₂_cons_left_iff.mp hall
      rw [map_cons, nodup_cons] at hnodup
      have hk : k ∉ seen := hnew _ mem_cons_self
      have hmore : distinctBy find duplicate finish (k :: seen) xs = .ok more := by
        refine ih.mpr ⟨htail, hnodup.2, ?_⟩
        intro o ho hseen
        rcases mem_cons.mp hseen with hok | hseen
        · exact hnodup.1 (mem_map.mpr ⟨o, ho, hok⟩)
        · exact hnew o (mem_cons_of_mem _ ho) hseen
      refine ⟨(k, b), hfind, ?_⟩
      simp only [hk, if_false]
      exact bind_eq_ok.mpr ⟨c, hfinish, bind_eq_ok.mpr ⟨more, hmore, rfl⟩⟩

/-- Keys that have to be different. -/
theorem distinctBy_keys {f : α → Except ε κ} {duplicate : ε} {ks : List κ} :
    (∃ out, distinctBy (fun x => (·, ()) <$> f x) duplicate (γ := Unit) .ok [] xs = .ok out ∧
        out.map (·.1) = ks) ↔
      xs.mapM f = .ok ks ∧ ks.Nodup := by
  constructor
  · rintro ⟨out, hout, rfl⟩
    rcases distinctBy_eq_ok.mp hout with ⟨hall, hnodup, -⟩
    refine ⟨mapM_eq_ok.mpr (forall₂_map_right_iff.mpr (hall.imp fun x o h => ?_)), hnodup⟩
    rcases h with ⟨b, hb, -⟩
    rcases map_eq_ok.mp hb with ⟨k, hk, hpair⟩
    cases hpair
    exact hk
  · rintro ⟨hks, hnodup⟩
    have hback : (ks.map fun k => (k, ())).map (·.1) = ks := by
      rw [map_map]
      exact map_id ks
    refine ⟨ks.map fun k => (k, ()), distinctBy_eq_ok.mpr ⟨?_, by rwa [hback], ?_⟩, hback⟩
    · refine forall₂_map_right_iff.mpr ((mapM_eq_ok.mp hks).imp fun x k hk => ?_)
      exact ⟨(), map_eq_ok.mpr ⟨k, hk, rfl⟩, rfl⟩
    · exact fun _ _ => not_mem_nil

/-! ### Loops over sorted lists -/

section Sorted

variable {R : α → β → Prop} {r : α → α → Prop} {s : β → β → Prop} [DecidableRel r] [DecidableRel s]

theorem forall₂_orderedInsert (hrs : ∀ x y x' y', R x y → R x' y' → (r x x' ↔ s y y')) {x : α}
    {y : β} (hxy : R x y) {xs : List α} {ys : List β} (h : List.Forall₂ R xs ys) :
    List.Forall₂ R (xs.orderedInsert r x) (ys.orderedInsert s y) := by
  induction h with
  | nil => exact .cons hxy .nil
  | @cons x' y' xs ys hxy' hall ih =>
    rw [orderedInsert_cons, orderedInsert_cons]
    by_cases hr : r x x'
    · rw [if_pos hr, if_pos ((hrs x y x' y' hxy hxy').mp hr)]
      exact .cons hxy (.cons hxy' hall)
    · rw [if_neg hr, if_neg fun hs => hr ((hrs x y x' y' hxy hxy').mpr hs)]
      exact .cons hxy' ih

theorem forall₂_insertionSort (hrs : ∀ x y x' y', R x y → R x' y' → (r x x' ↔ s y y'))
    {xs : List α} {ys : List β} (h : List.Forall₂ R xs ys) :
    List.Forall₂ R (xs.insertionSort r) (ys.insertionSort s) := by
  induction h with
  | nil => exact .nil
  | cons hxy _ ih => exact forall₂_orderedInsert hrs hxy ih

end Sorted

/-- Sorting before a loop is sorting its results, if results are ordered as the
    elements are. -/
theorem mapM_insertionSort_eq_ok {f : α → Except ε β} {r : α → α → Prop} {s : β → β → Prop}
    [DecidableRel r] [DecidableRel s]
    (hrs : ∀ x y x' y', f x = .ok y → f x' = .ok y' → (r x x' ↔ s y y'))
    {zs : List β} :
    (xs.insertionSort r).mapM f = .ok zs ↔
      ∃ ys, xs.mapM f = .ok ys ∧ ys.insertionSort s = zs := by
  constructor
  · intro h
    have hall : ∀ x ∈ xs, ∃ y, f x = .ok y := by
      intro x hx
      rcases exists_of_mem_left (mapM_eq_ok.mp h) ((mem_insertionSort r).mpr hx) with
        ⟨y, -, hy⟩
      exact ⟨y, hy⟩
    rcases exists_forall₂ hall with ⟨ys, hys⟩
    have hsorted := mapM_eq_ok.mpr (forall₂_insertionSort hrs hys)
    rw [h] at hsorted
    exact ⟨ys, mapM_eq_ok.mpr hys, (Except.ok.inj hsorted).symm⟩
  · rintro ⟨ys, hys, rfl⟩
    exact mapM_eq_ok.mpr (forall₂_insertionSort hrs (mapM_eq_ok.mp hys))

end Fallible
