import Mathlib.Data.List.Nodup
import Mathlib.Data.List.Pairwise
import Mathlib.Data.List.Perm.Basic

/-!
# Grouping Below Outermost Elements

Elements that lie above and below each other form a forest, and a list of
them is cut into groups: an element joins the first group whose head is above
it, and opens a group of its own if there is none. If the list has what lies
above before what lies below it, the heads are the outermost elements, and
each group has everything below its head.

The relation is an arbitrary decidable one. What makes it a forest is
`IsForest`: two elements above a third are above one another or equal.

## Main definitions

* `Forest.insertInto`, `Forest.group`: Grouping, one element at a time.
* `Forest.members`: The elements of a list of groups.
* `Forest.IsForest`: What the relation must satisfy.

## Theorems

* `members_group`: Grouping neither loses nor repeats an element.
* `grouped_group`: In a forest, heads are unrelated and a group has exactly
  what lies below its head.
-/

namespace Forest

open List

variable {α : Type}

/-- Put an element into the first group whose head is above it. -/
def insertInto (above : α → α → Bool) : List (α × List α) → α → List (α × List α)
  | [], a => [(a, [])]
  | (head, below) :: groups, a =>
    if above head a then (head, below ++ [a]) :: groups
    else (head, below) :: insertInto above groups a

/-- The groups of a list. -/
def group (above : α → α → Bool) (elements : List α) : List (α × List α) :=
  elements.foldl (insertInto above) []

/-- The elements of a list of groups, group by group. -/
def members (groups : List (α × List α)) : List α := groups.flatMap (fun g => g.1 :: g.2)

/-- The relation is the strict order of a forest on the elements of a list:
    nothing is above itself, and what is above a common element is related or
    equal. -/
structure IsForest (above : α → α → Bool) (elements : List α) : Prop where
  irrefl : ∀ a ∈ elements, above a a = false
  comparable : ∀ a ∈ elements, ∀ b ∈ elements, ∀ c ∈ elements,
    above a c = true → above b c = true → above a b = true ∨ above b a = true ∨ a = b

theorem members_insertInto (above : α → α → Bool) (groups : List (α × List α)) (a : α) :
    (members (insertInto above groups a)).Perm (a :: members groups) := by
  induction groups with
  | nil => rfl
  | cons g groups ih =>
    rcases g with ⟨head, below⟩
    unfold insertInto
    split
    · -- The element lands at the end of the first group.
      have hmid : (head :: (below ++ [a]) ++ members groups).Perm
          (a :: (head :: below ++ members groups)) := by
        have : head :: (below ++ [a]) ++ members groups =
            (head :: below) ++ a :: members groups := by simp
        rw [this]
        exact perm_middle
      exact hmid
    · have hrest : (head :: below ++ members (insertInto above groups a)).Perm
          (head :: below ++ a :: members groups) := ih.append_left _
      exact hrest.trans perm_middle

/-- Grouping neither loses nor repeats an element. -/
theorem members_group (above : α → α → Bool) (elements : List α) :
    (members (group above elements)).Perm elements := by
  have hfold : ∀ (groups : List (α × List α)),
      (members (elements.foldl (insertInto above) groups)).Perm (elements ++ members groups) := by
    induction elements with
    | nil => exact fun groups => List.Perm.refl _
    | cons a as ih =>
      intro groups
      rw [foldl_cons]
      refine (ih _).trans ?_
      refine ((members_insertInto above groups a).append_left as).trans ?_
      exact perm_middle
  simpa [group, members] using hfold []

theorem mem_members {groups : List (α × List α)} {g : α × List α} (h : g ∈ groups) {a : α}
    (ha : a = g.1 ∨ a ∈ g.2) : a ∈ members groups := by
  refine mem_flatMap.mpr ⟨g, h, ?_⟩
  rcases ha with rfl | ha
  · simp
  · simp [ha]

/-- A group is a part of the members. -/
theorem sublist_members {groups : List (α × List α)} {g : α × List α} (h : g ∈ groups) :
    (g.1 :: g.2).Sublist (members groups) := by
  unfold members
  rw [flatMap_def]
  exact sublist_flatten_of_mem (mem_map_of_mem h)

/-- What grouping maintains for the elements seen so far. -/
structure Grouped (above : α → α → Bool) (seen : List α) (groups : List (α × List α)) : Prop where
  perm : (members groups).Perm seen
  head_above : ∀ g ∈ groups, ∀ a ∈ g.2, above g.1 a = true
  heads : groups.Pairwise (fun g g' => above g.1 g'.1 = false ∧ above g'.1 g.1 = false)
  complete : ∀ g ∈ groups, ∀ a ∈ seen, above g.1 a = true → a ∈ g.2

/-- Two groups with different heads have unrelated heads. -/
theorem Grouped.heads_unrelated {above : α → α → Bool} {seen : List α}
    {groups : List (α × List α)} (h : Grouped above seen groups) {g g' : α × List α}
    (hg : g ∈ groups) (hg' : g' ∈ groups) (hne : g ≠ g') : above g.1 g'.1 = false := by
  have hsymm : Std.Symm (fun g g' : α × List α =>
      above g.1 g'.1 = false ∧ above g'.1 g.1 = false) := ⟨fun _ _ hr => ⟨hr.2, hr.1⟩⟩
  exact (h.heads.forall hg hg' hne).1

theorem insertInto_of_no_head (above : α → α → Bool) (groups : List (α × List α)) (a : α)
    (h : ∀ g ∈ groups, above g.1 a = false) : insertInto above groups a = groups ++ [(a, [])] := by
  induction groups with
  | nil => rfl
  | cons g groups ih =>
    rcases g with ⟨head, below⟩
    have hhead : above head a = false := h (head, below) (by simp)
    rw [insertInto, if_neg (by simp [hhead]), ih (fun g hg => h g (by simp [hg])),
      cons_append]

theorem insertInto_of_head (above : α → α → Bool) (before after : List (α × List α)) (head : α)
    (below : List α) (a : α) (hbefore : ∀ g ∈ before, above g.1 a = false)
    (hhead : above head a = true) :
    insertInto above (before ++ (head, below) :: after) a =
      before ++ (head, below ++ [a]) :: after := by
  induction before with
  | nil => rw [nil_append, insertInto, if_pos hhead, nil_append]
  | cons g before ih =>
    rcases g with ⟨head', below'⟩
    have hhead' : above head' a = false := hbefore (head', below') (by simp)
    rw [cons_append, insertInto, if_neg (by simp [hhead']),
      ih (fun g hg => hbefore g (by simp [hg])), cons_append]

/-- The groups either have a first head above the element, or none. -/
theorem split_at_head (above : α → α → Bool) (groups : List (α × List α)) (a : α) :
    (∀ g ∈ groups, above g.1 a = false) ∨
    ∃ before head below after, groups = before ++ (head, below) :: after ∧
      (∀ g ∈ before, above g.1 a = false) ∧ above head a = true := by
  induction groups with
  | nil => exact Or.inl (by simp)
  | cons g groups ih =>
    rcases g with ⟨head, below⟩
    rcases hhead : above head a with _ | _
    · rcases ih with hnone | ⟨before, head', below', after, rfl, hbefore, hhead'⟩
      · exact Or.inl (forall_mem_cons.mpr ⟨hhead, hnone⟩)
      · exact Or.inr ⟨(head, below) :: before, head', below', after, rfl,
          forall_mem_cons.mpr ⟨hhead, hbefore⟩, hhead'⟩
    · exact Or.inr ⟨[], head, below, groups, rfl, by simp, hhead⟩

/-- One more element keeps the groups in order, if it is above none of the
    elements before it. -/
theorem Grouped.insert {above : α → α → Bool} {elements seen : List α}
    {groups : List (α × List α)} (hforest : IsForest above elements)
    (hseen : ∀ b ∈ seen, b ∈ elements) (h : Grouped above seen groups) (hnodup : seen.Nodup)
    {a : α} (ha : a ∈ elements) (horder : ∀ b ∈ seen, above a b = false) :
    Grouped above (seen ++ [a]) (insertInto above groups a) := by
  have hhead : ∀ g ∈ groups, g.1 ∈ seen := fun g hg =>
    h.perm.subset (mem_members hg (Or.inl rfl))
  have hperm : (members (insertInto above groups a)).Perm (seen ++ [a]) :=
    (members_insertInto above groups a).trans
      ((h.perm.cons a).trans (perm_append_singleton a seen).symm)
  rcases split_at_head above groups a with hnone | ⟨before, head, below, after, rfl, hbefore, hhd⟩
  · -- No head is above the element, so it opens a group.
    rw [insertInto_of_no_head above groups a hnone] at hperm ⊢
    refine ⟨hperm, ?_, ?_, ?_⟩
    · intro g hg b hb
      rcases mem_append.mp hg with hg | hg
      · exact h.head_above g hg b hb
      · rw [mem_singleton.mp hg] at hb
        simp at hb
    · rw [pairwise_append]
      refine ⟨h.heads, pairwise_singleton _ _, ?_⟩
      intro g hg g' hg'
      rw [mem_singleton.mp hg']
      exact ⟨hnone g hg, horder _ (hhead g hg)⟩
    · intro g hg b hb hab
      rcases mem_append.mp hg with hg | hg
      · rcases mem_append.mp hb with hb | hb
        · exact h.complete g hg b hb hab
        · rw [mem_singleton.mp hb, hnone g hg] at hab
          cases hab
      · rw [mem_singleton.mp hg] at hab
        rcases mem_append.mp hb with hb | hb
        · rw [horder b hb] at hab
          cases hab
        · rw [mem_singleton.mp hb, hforest.irrefl a ha] at hab
          cases hab
  · -- The element joins the first group whose head is above it. No other
    -- head can be above it, since heads are unrelated and distinct.
    have hmem : (head, below) ∈ before ++ (head, below) :: after := by simp
    have hheads : (before ++ (head, below) :: after).Pairwise (fun g g' => g.1 ≠ g'.1) := by
      have hall : (members (before ++ (head, below) :: after)).Nodup :=
        h.perm.nodup_iff.mpr hnodup
      unfold members at hall
      rw [nodup_flatMap] at hall
      refine hall.2.imp (fun hdisjoint heq => ?_)
      exact hdisjoint mem_cons_self (heq ▸ mem_cons_self)
    have honly : ∀ g ∈ before ++ (head, below) :: after, above g.1 a = true → g.1 = head := by
      intro g hg hga
      rcases hforest.comparable g.1 (hseen _ (hhead g hg)) head (hseen _ (hhead _ hmem)) a ha hga
        hhd with hrel | hrel | heq
      · by_cases hsame : g = (head, below)
        · rw [hsame]
        · rw [h.heads_unrelated hg hmem hsame] at hrel
          cases hrel
      · by_cases hsame : g = (head, below)
        · rw [hsame]
        · rw [h.heads_unrelated hmem hg (Ne.symm hsame)] at hrel
          cases hrel
      · exact heq
    rw [insertInto_of_head above before after head below a hbefore hhd] at hperm ⊢
    refine ⟨hperm, ?_, ?_, ?_⟩
    · intro g hg b hb
      rcases mem_append.mp hg with hg | hg
      · exact h.head_above g (by simp [hg]) b hb
      rcases mem_cons.mp hg with rfl | hg
      · rcases mem_append.mp hb with hb | hb
        · exact h.head_above (head, below) hmem b hb
        · rw [mem_singleton.mp hb]
          exact hhd
      · exact h.head_above g (by simp [hg]) b hb
    · have hold := h.heads
      rw [pairwise_append, pairwise_cons] at hold ⊢
      refine ⟨hold.1, ⟨hold.2.1.1, hold.2.1.2⟩, ?_⟩
      intro g hg g' hg'
      rcases mem_cons.mp hg' with rfl | hg'
      · exact hold.2.2 g hg (head, below) (by simp)
      · exact hold.2.2 g hg g' (by simp [hg'])
    · intro g hg b hb hgb
      rcases mem_append.mp hg with hg | hg
      · rcases mem_append.mp hb with hb | hb
        · exact h.complete g (by simp [hg]) b hb hgb
        · rw [mem_singleton.mp hb, hbefore g hg] at hgb
          cases hgb
      rcases mem_cons.mp hg with rfl | hg
      · rcases mem_append.mp hb with hb | hb
        · exact mem_append_left _ (h.complete (head, below) hmem b hb hgb)
        · exact mem_append_right _ hb
      · rcases mem_append.mp hb with hb | hb
        · exact h.complete g (by simp [hg]) b hb hgb
        · -- A later head above the element would be a second copy of `head`.
          rw [mem_singleton.mp hb] at hgb
          have heq := honly g (by simp [hg]) hgb
          rw [pairwise_append, pairwise_cons] at hheads
          exact absurd heq.symm (hheads.2.1.1 g hg)

/-- Grouping a list in which nothing is above an earlier element. -/
theorem grouped_group {above : α → α → Bool} {elements : List α}
    (hforest : IsForest above elements) (hnodup : elements.Nodup)
    (horder : elements.Pairwise (fun a b => above b a = false)) :
    Grouped above elements (group above elements) := by
  have hfold : ∀ (rest seen : List α) (groups : List (α × List α)), seen ++ rest = elements →
      Grouped above seen groups → Grouped above elements (rest.foldl (insertInto above) groups) := by
    intro rest
    induction rest with
    | nil =>
      intro seen groups heq hgroups
      rw [append_nil] at heq
      rw [← heq]
      exact hgroups
    | cons a rest ih =>
      intro seen groups heq hgroups
      have hsplit : (seen ++ a :: rest).Pairwise (fun a b => above b a = false) := heq ▸ horder
      have hdistinct : (seen ++ a :: rest).Nodup := heq ▸ hnodup
      refine ih (seen ++ [a]) _ (by simpa using heq) ?_
      refine hgroups.insert hforest ?_ ?_ ?_ ?_
      · intro b hb
        rw [← heq]
        simp [hb]
      · exact (sublist_append_left seen _).nodup hdistinct
      · rw [← heq]
        simp
      · intro b hb
        exact (pairwise_append.mp hsplit).2.2 b hb a (by simp)
  refine hfold elements [] [] rfl ⟨List.Perm.refl _, by simp, List.Pairwise.nil, by simp⟩

end Forest
