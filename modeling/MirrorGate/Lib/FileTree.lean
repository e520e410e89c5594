import Mathlib.Data.List.Nodup
import Mathlib.Data.List.Infix
import Mathlib.Tactic.Basic

/-!
# Trees of Named Nodes

A file tree is a finite list of paths with a value each. Paths are lists of
names below a root that is not an entry itself. No path occurs twice, and the
parent of an entry is an entry, so a tree with a hole cannot be built.

There are two changes. An entry with nothing below it can be erased, and an
entry can be moved with everything below it to a name that is free or has
nothing below it. What a change does is said by `lookup`, at every path.

## Main definitions

* `FileTree`: Distinct paths, closed under parents.
* `FileTree.lookup`, `FileTree.children`: Reading a tree.
* `FileTree.Bare`: Nothing lies below a path.
* `FileTree.erase`, `FileTree.move`: Changing a tree.
* `FileTree.Shrinks`: Entries have gone, in a region only.

## Theorems

* `lookup_erase`, `lookup_move_into`, `lookup_move_other`: Looking up after a
  change.
-/

/-- A finite tree of values, by path. -/
structure FileTree (α ν : Type) where
  entries : List (List α × ν)
  distinct : (entries.map Prod.fst).Nodup
  closed : ∀ path ∈ entries.map Prod.fst, path.dropLast ≠ [] →
    path.dropLast ∈ entries.map Prod.fst

namespace FileTree

open List

variable {α ν : Type} [DecidableEq α]

/-- The value at a path. -/
def lookup (tree : FileTree α ν) (path : List α) : Option ν :=
  (tree.entries.find? (fun entry => entry.1 = path)).map Prod.snd

/-- The names in a directory, in the order of the entries. -/
def children (tree : FileTree α ν) (path : List α) : List α :=
  tree.entries.filterMap (fun entry =>
    if entry.1.dropLast = path then entry.1.getLast? else none)

/-- Nothing lies below the path. -/
def Bare (tree : FileTree α ν) (path : List α) : Prop :=
  ∀ entry ∈ tree.entries, path <+: entry.1 → entry.1 = path

instance (tree : FileTree α ν) (path : List α) : Decidable (tree.Bare path) :=
  inferInstanceAs (Decidable (∀ entry ∈ _, _))

/-- Take out an entry with nothing below it. -/
def erase (tree : FileTree α ν) (path : List α) (hbare : tree.Bare path) : FileTree α ν where
  entries := tree.entries.filter (fun entry => entry.1 ≠ path)
  distinct := (List.filter_sublist.map Prod.fst).nodup tree.distinct
  closed := by
    intro p hp hne
    rcases List.mem_map.mp hp with ⟨entry, hentry, rfl⟩
    rcases List.mem_filter.mp hentry with ⟨hmem, hother⟩
    rcases List.mem_map.mp (tree.closed _ (List.mem_map_of_mem hmem) hne) with
      ⟨parent, hparent, heq⟩
    refine List.mem_map.mpr ⟨parent, List.mem_filter.mpr ⟨hparent, ?_⟩, heq⟩
    -- The erased entry is no parent, since nothing lies below it.
    have hne' : parent.1 ≠ path := by
      intro hpath
      rw [hpath] at heq
      have hbelow := hbare entry hmem (heq ▸ List.dropLast_prefix _)
      simp only [hbelow, ne_eq, not_true_eq_false, decide_false] at hother
      cases hother
    simpa using hne'

/-- An entry can be moved to a name outside of it whose parent is there and
    that has nothing below it. -/
structure CanMove (tree : FileTree α ν) (source target : List α) : Prop where
  outside : ¬ source <+: target
  parent : target.dropLast = [] ∨ target.dropLast ∈ tree.entries.map Prod.fst
  bare : tree.Bare target

instance (tree : FileTree α ν) (source target : List α) : Decidable (tree.CanMove source target) :=
  decidable_of_iff (¬ source <+: target ∧
      (target.dropLast = [] ∨ target.dropLast ∈ tree.entries.map Prod.fst) ∧ tree.Bare target)
    ⟨fun h => ⟨h.1, h.2.1, h.2.2⟩, fun h => ⟨h.outside, h.parent, h.bare⟩⟩

/-- What stays in place when a subtree is moved. -/
def stayed (tree : FileTree α ν) (source target : List α) : List (List α × ν) :=
  tree.entries.filter (fun entry => ¬ source <+: entry.1 ∧ ¬ target <+: entry.1)

/-- What is moved, under its new paths. -/
def moved (tree : FileTree α ν) (source target : List α) : List (List α × ν) :=
  (tree.entries.filter (fun entry => source <+: entry.1)).map
    (fun entry => (target ++ entry.1.drop source.length, entry.2))

variable {tree : FileTree α ν} {source target : List α}

theorem mem_stayed {entry : List α × ν} :
    entry ∈ tree.stayed source target ↔
      entry ∈ tree.entries ∧ ¬ source <+: entry.1 ∧ ¬ target <+: entry.1 := by
  simp [stayed]

theorem mem_moved {path : List α} {value : ν} :
    (path, value) ∈ tree.moved source target ↔
      ∃ rest, path = target ++ rest ∧ (source ++ rest, value) ∈ tree.entries := by
  unfold moved
  rw [mem_map]
  constructor
  · rintro ⟨⟨old, v⟩, hmem, heq⟩
    rcases mem_filter.mp hmem with ⟨hmem, hbelow⟩
    rcases of_decide_eq_true hbelow with ⟨rest, hrest⟩
    simp only [Prod.mk.injEq] at heq hrest
    subst hrest
    refine ⟨rest, ?_, ?_⟩
    · rw [← heq.1, drop_left]
    · rw [← heq.2]
      exact hmem
  · rintro ⟨rest, rfl, hmem⟩
    refine ⟨(source ++ rest, value), mem_filter.mpr ⟨hmem, by simp⟩, ?_⟩
    rw [drop_left]

/-- Move an entry with everything below it. What was at the target is
    replaced. -/
def move (tree : FileTree α ν) (source target : List α) (h : tree.CanMove source target) :
    FileTree α ν where
  entries := tree.stayed source target ++ tree.moved source target
  distinct := by
    rw [List.map_append]
    refine List.Nodup.append ((List.filter_sublist.map Prod.fst).nodup tree.distinct) ?_ ?_
    · -- Distinct paths below the source stay distinct below the target.
      unfold moved
      rw [List.map_map]
      have hsub : ((tree.entries.filter (fun entry => source <+: entry.1)).map Prod.fst).Nodup :=
        (List.filter_sublist.map Prod.fst).nodup tree.distinct
      refine List.Nodup.map_on ?_ (List.Nodup.of_map Prod.fst hsub)
      intro a ha b hb heq
      rcases of_decide_eq_true (List.mem_filter.mp ha).2 with ⟨rest, hrest⟩
      rcases of_decide_eq_true (List.mem_filter.mp hb).2 with ⟨rest', hrest'⟩
      simp only [Function.comp_apply, ← hrest, ← hrest', List.drop_left,
        List.append_cancel_left_eq] at heq
      refine List.inj_on_of_nodup_map hsub ha hb ?_
      rw [← hrest, ← hrest', heq]
    · rw [List.disjoint_left]
      intro path hstayed hmoved
      rcases List.mem_map.mp hstayed with ⟨a, ha, rfl⟩
      rcases List.mem_map.mp hmoved with ⟨⟨p, v⟩, hb, heq⟩
      rcases mem_moved.mp hb with ⟨rest, rfl, -⟩
      refine (mem_stayed.mp ha).2.2 ?_
      rw [← heq]
      exact List.prefix_append _ _
  closed := by
    intro path hpath hne
    rw [List.map_append, List.mem_append] at hpath ⊢
    rcases hpath with hpath | hpath
    · -- The parent of what stays is outside of both subtrees.
      rcases List.mem_map.mp hpath with ⟨entry, hentry, rfl⟩
      rcases mem_stayed.mp hentry with ⟨hmem, hsource, htarget⟩
      rcases List.mem_map.mp (tree.closed _ (List.mem_map_of_mem hmem) hne) with
        ⟨parent, hparent, heq⟩
      refine Or.inl (List.mem_map.mpr ⟨parent, mem_stayed.mpr ⟨hparent, ?_, ?_⟩, heq⟩)
      · rw [heq]
        exact fun hbelow => hsource (hbelow.trans (List.dropLast_prefix _))
      · rw [heq]
        exact fun hbelow => htarget (hbelow.trans (List.dropLast_prefix _))
    · rcases List.mem_map.mp hpath with ⟨⟨p, value⟩, hentry, rfl⟩
      rcases mem_moved.mp hentry with ⟨rest, rfl, hmem⟩
      rcases List.eq_nil_or_concat rest with rfl | ⟨front, last, rfl⟩
      · -- The moved entry itself: its new parent was there before.
        simp only [List.append_nil] at hne ⊢
        rcases h.parent with hroot | hparent
        · exact absurd hroot hne
        rcases List.mem_map.mp hparent with ⟨parent, hparent, heq⟩
        refine Or.inl (List.mem_map.mpr ⟨parent, mem_stayed.mpr ⟨hparent, ?_, ?_⟩, heq⟩)
        · rw [heq]
          exact fun hbelow => h.outside (hbelow.trans (List.dropLast_prefix _))
        · rw [heq]
          intro hbelow
          have hlength := hbelow.length_le
          rw [List.length_dropLast] at hlength
          have hpos : target ≠ [] := by
            rintro rfl
            simp at hne
          have := List.length_pos_of_ne_nil hpos
          omega
      · -- Anything below it: its parent has moved along.
        have hdrop : ∀ start : List α, (start ++ front.concat last).dropLast = start ++ front := by
          intro start
          rw [List.concat_eq_append, ← List.append_assoc, List.dropLast_concat]
        rw [hdrop] at hne ⊢
        have hold : source ++ front ≠ [] := by
          intro hnil
          rcases List.append_eq_nil_iff.mp hnil with ⟨hs, -⟩
          exact h.outside (hs ▸ List.nil_prefix)
        have hparent := tree.closed _ (List.mem_map_of_mem hmem) (by rw [hdrop]; exact hold)
        rw [hdrop] at hparent
        rcases List.mem_map.mp hparent with ⟨⟨q, w⟩, hq, heq⟩
        simp only at heq
        rw [heq] at hq
        exact Or.inr (List.mem_map.mpr ⟨(target ++ front, w), mem_moved.mpr ⟨front, rfl, hq⟩, rfl⟩)

/-! ### Looking up -/

/-- Paths are distinct, so an entry is what is looked up. -/
theorem lookup_eq_some {path : List α} {value : ν} :
    tree.lookup path = some value ↔ (path, value) ∈ tree.entries := by
  unfold lookup
  constructor
  · intro h
    rcases Option.map_eq_some_iff.mp h with ⟨⟨p, v⟩, hfind, hvalue⟩
    have hpath : p = path := by simpa using find?_some hfind
    simp only at hvalue
    rw [← hpath, ← hvalue]
    exact mem_of_find?_eq_some hfind
  · intro hmem
    have hsome : (tree.entries.find? (fun entry => entry.1 = path)).isSome = true := by
      rw [find?_isSome]
      exact ⟨(path, value), hmem, by simp⟩
    rcases Option.isSome_iff_exists.mp hsome with ⟨found, hfound⟩
    have hpath : found.1 = path := by simpa using find?_some hfound
    have heq := inj_on_of_nodup_map tree.distinct (mem_of_find?_eq_some hfound) hmem hpath
    rw [hfound, heq]
    rfl

theorem lookup_eq_none {path : List α} :
    tree.lookup path = none ↔ ∀ value, (path, value) ∉ tree.entries := by
  rw [Option.eq_none_iff_forall_ne_some]
  exact forall_congr' (fun value => not_congr lookup_eq_some)

variable {tree' : FileTree α ν}

/-- Lookups agree if the entries do. -/
theorem lookup_congr {path path' : List α}
    (h : ∀ value, (path, value) ∈ tree.entries ↔ (path', value) ∈ tree'.entries) :
    tree.lookup path = tree'.lookup path' := by
  refine Option.ext (fun value => ?_)
  rw [lookup_eq_some, lookup_eq_some]
  exact h value

@[simp] theorem lookup_erase_self (tree : FileTree α ν) (path : List α) (h : tree.Bare path) :
    (tree.erase path h).lookup path = none := by
  rw [lookup_eq_none]
  simp [erase]

theorem lookup_erase_of_ne (tree : FileTree α ν) {path other : List α} (h : tree.Bare path)
    (hne : other ≠ path) : (tree.erase path h).lookup other = tree.lookup other :=
  lookup_congr (fun value => by simp [erase, hne])

/-- What is at and below the target after a move was at and below the source. -/
theorem lookup_move_into (tree : FileTree α ν)
    (h : tree.CanMove source target) (rest : List α) :
    (tree.move source target h).lookup (target ++ rest) = tree.lookup (source ++ rest) := by
  refine lookup_congr (fun value => ?_)
  unfold move
  rw [mem_append, mem_moved, mem_stayed]
  constructor
  · rintro (⟨-, -, hoff⟩ | ⟨rest', heq, hmem⟩)
    · exact absurd (prefix_append _ _) hoff
    · rw [append_cancel_left_eq] at heq
      rw [heq]
      exact hmem
  · exact fun hmem => Or.inr ⟨rest, rfl, hmem⟩

/-- Nothing is left at and below the source. -/
theorem lookup_move_from (tree : FileTree α ν) {path : List α}
    (h : tree.CanMove source target) (hsource : source <+: path) (htarget : ¬ target <+: path) :
    (tree.move source target h).lookup path = none := by
  rw [lookup_eq_none]
  intro value hmem
  unfold move at hmem
  rw [mem_append, mem_moved, mem_stayed] at hmem
  rcases hmem with ⟨-, hoff, -⟩ | ⟨rest, rfl, -⟩
  · exact hoff hsource
  · exact htarget (prefix_append _ _)

/-- Everything outside of the source and the target stays. -/
theorem lookup_move_other (tree : FileTree α ν) {path : List α}
    (h : tree.CanMove source target) (hsource : ¬ source <+: path) (htarget : ¬ target <+: path) :
    (tree.move source target h).lookup path = tree.lookup path := by
  refine lookup_congr (fun value => ?_)
  unfold move
  rw [mem_append, mem_moved, mem_stayed]
  constructor
  · rintro (⟨hmem, -⟩ | ⟨rest, rfl, -⟩)
    · exact hmem
    · exact absurd (prefix_append _ _) htarget
  · exact fun hmem => Or.inl ⟨hmem, hsource, htarget⟩

/-! ### Removals -/

/-- Entries have gone, none outside of a region, and none has changed. -/
structure Shrinks (region : List α → Prop) (tree tree' : FileTree α ν) : Prop where
  outside : ∀ path, ¬ region path → tree'.lookup path = tree.lookup path
  kept : ∀ path value, tree'.lookup path = some value → tree.lookup path = some value

theorem Shrinks.refl (region : List α → Prop) (tree : FileTree α ν) : Shrinks region tree tree :=
  ⟨fun _ _ => rfl, fun _ _ h => h⟩

variable {region : List α → Prop}

theorem Shrinks.trans {tree'' : FileTree α ν}
    (h1 : Shrinks region tree tree') (h2 : Shrinks region tree' tree'') :
    Shrinks region tree tree'' where
  outside := fun path hpath => (h2.outside path hpath).trans (h1.outside path hpath)
  kept := fun path value h => h1.kept path value (h2.kept path value h)

theorem Shrinks.mono {wider : List α → Prop}
    (hwider : ∀ path, region path → wider path) (h : Shrinks region tree tree') :
    Shrinks wider tree tree' where
  outside := fun path hpath => h.outside path (fun hregion => hpath (hwider path hregion))
  kept := h.kept

theorem shrinks_erase {path : List α}
    (hpath : region path) (h : tree.Bare path) : Shrinks region tree (tree.erase path h) where
  outside := fun p hp => tree.lookup_erase_of_ne h (fun heq => hp (heq ▸ hpath))
  kept := fun p value hp => by
    by_cases heq : p = path
    · rw [heq, lookup_erase_self] at hp
      cases hp
    · rw [lookup_erase_of_ne tree h heq] at hp
      exact hp

end FileTree
