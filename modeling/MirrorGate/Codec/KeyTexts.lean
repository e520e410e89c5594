import MirrorGate.Codec.Keys
import MirrorGate.Lib.Compact
import Mathlib.Data.Prod.Lex

/-!
# The Keys of the Implementations

The supervisor builds keys from nested tuples and frozen sets. The others build
texts: JSON with the keys of the elements as strings in it. A text has to put
the elements of a set in some order. The runtime for Node orders texts by their
sixteen-bit units, and Rust and C++ order them by their characters. It does not
matter which order it is, as long as it tells texts apart.

## Main definitions

* `PyKey`, `pythonKeys`: The keys of the supervisor.
* `plainKeys`, `nodeKeys`, `cppKeys`: The keys of Node and of C++.
* `rustKeys`: The keys of Rust.

## Theorems

* `pythonKeys_lawful`, `plainKeys_lawful`, `rustKeys_lawful`: All of them tell
  values apart.
-/

namespace MirrorGate.Codec

open Fallible List

/-! ### The supervisor -/

/-- A value that the supervisor can put into a set. -/
inductive PyKey where
  | text (value : String)
  | flag (value : Bool)
  | tuple (items : List PyKey)
  | frozenset (items : List PyKey)

namespace PyKey

mutual
/-- Equality, which does not look at the order of a frozen set. -/
def eq : PyKey → PyKey → Bool
  | .text a, .text b => a = b
  | .flag a, .flag b => a = b
  | .tuple xs, .tuple ys => eqAll xs ys
  | .frozenset xs, .frozenset ys => allIn xs ys && ys.all fun y => oneOf xs y
  | _, _ => false

def eqAll : List PyKey → List PyKey → Bool
  | [], [] => true
  | x :: xs, y :: ys => eq x y && eqAll xs ys
  | _, _ => false

/-- Every key of the first list is in the second. -/
def allIn : List PyKey → List PyKey → Bool
  | [], _ => true
  | x :: xs, ys => (ys.any fun y => eq x y) && allIn xs ys

def oneOf : List PyKey → PyKey → Bool
  | [], _ => false
  | x :: xs, y => eq x y || oneOf xs y
end

theorem eqAll_iff {xs ys : List PyKey} :
    eqAll xs ys = true ↔ List.Forall₂ (fun x y => eq x y = true) xs ys := by
  induction xs generalizing ys with
  | nil => cases ys <;> simp [eqAll]
  | cons x xs ih => cases ys <;> simp [eqAll, ih]

theorem allIn_iff {xs ys : List PyKey} :
    allIn xs ys = true ↔ ∀ x ∈ xs, ∃ y ∈ ys, eq x y = true := by
  induction xs with
  | nil => simp [allIn]
  | cons x xs ih => simp [allIn, ih]

theorem oneOf_iff {xs : List PyKey} {y : PyKey} :
    oneOf xs y = true ↔ ∃ x ∈ xs, eq x y = true := by
  induction xs with
  | nil => simp [oneOf]
  | cons x xs ih => simp [oneOf, ih]

theorem eq_frozenset {xs ys : List PyKey} :
    eq (.frozenset xs) (.frozenset ys) = true ↔ Covers (fun x y => eq x y = true) xs ys := by
  rw [eq, Bool.and_eq_true, allIn_iff, all_eq_true, Covers]
  simp only [oneOf_iff]

theorem eq_tuple {xs ys : List PyKey} :
    eq (.tuple xs) (.tuple ys) = true ↔ List.Forall₂ (fun x y => eq x y = true) xs ys := by
  rw [eq, eqAll_iff]

@[simp] theorem eq_text {a b : String} : eq (.text a) (.text b) = true ↔ a = b := by
  simp [eq]

@[simp] theorem eq_flag {a b : Bool} : eq (.flag a) (.flag b) = true ↔ a = b := by
  simp [eq]

/-- A name with a key. -/
def pair (f : String × PyKey) : PyKey := .tuple [.text f.1, f.2]

theorem eq_pair {f g : String × PyKey} :
    eq (pair f) (pair g) = true ↔ f.1 = g.1 ∧ eq f.2 g.2 = true := by
  rw [pair, pair, eq_tuple]
  simp

theorem covers_pair {xs ys : List (String × PyKey)} :
    Covers (fun x y => eq x y = true) (xs.map pair) (ys.map pair) ↔
      Covers (fun x y => x.1 = y.1 ∧ eq x.2 y.2 = true) xs ys := by
  unfold Covers
  simp only [mem_map, exists_exists_and_eq_and, forall_exists_index, and_imp,
    forall_apply_eq_imp_iff₂, eq_pair]

end PyKey

/-- The keys that `_value` returns. -/
def pythonKeys : Keys PyKey where
  eq := PyKey.eq
  int text := .tuple [.text "int", .text text]
  bool value := .tuple [.text "bool", .flag value]
  str value := .tuple [.text "str", .text value]
  null := .tuple [.text "null"]
  seq keys := .tuple [.text "seq", .tuple keys]
  set keys := .tuple [.text "set", .frozenset keys]
  tuple keys := .tuple [.text "tuple", .tuple keys]
  record fields := .tuple [.text "record", .frozenset (fields.map PyKey.pair)]
  map entries := .tuple [.text "map", .frozenset (entries.map PyKey.pair)]
  variant tag key := .tuple [.text "variant", .text tag, key]

/-- Two lists with the same names in the same places cover each other exactly
    if they agree in every place. -/
theorem covers_iff_forall₂ {κ : Type} (eq : κ → κ → Bool) {xs ys : List (String × κ)}
    (hnames : xs.map (·.1) = ys.map (·.1)) (hnodup : (xs.map (·.1)).Nodup) :
    Covers (fun x y => x.1 = y.1 ∧ eq x.2 y.2 = true) xs ys ↔
      List.Forall₂ (fun x y => eq x.2 y.2 = true) xs ys := by
  induction xs generalizing ys with
  | nil =>
    cases ys with
    | nil => exact ⟨fun _ => .nil, fun _ => ⟨nofun, nofun⟩⟩
    | cons y ys => cases hnames
  | cons x xs ih =>
    cases ys with
    | nil => cases hnames
    | cons y ys =>
      rw [map_cons, map_cons, cons.injEq] at hnames
      rw [map_cons, nodup_cons] at hnodup
      have htail := ih hnames.2 hnodup.2
      -- The name of the head occurs in neither tail.
      have hx : ∀ y' ∈ ys, x.1 ≠ y'.1 := by
        intro y' hy' hname
        exact hnodup.1 (hnames.2 ▸ hname ▸ mem_map_of_mem hy')
      have hy : ∀ x' ∈ xs, x'.1 ≠ y.1 := by
        intro x' hx' hname
        exact hnodup.1 (hnames.1 ▸ hname ▸ mem_map_of_mem hx')
      rw [forall₂_cons, ← htail]
      constructor
      · rintro ⟨hxs, hys⟩
        refine ⟨?_, ?_, ?_⟩
        · rcases hxs x mem_cons_self with ⟨y', hy', hname, heq⟩
          rcases mem_cons.mp hy' with rfl | hy'
          · exact heq
          · exact absurd hname (hx y' hy')
        · intro x' hx'
          rcases hxs x' (mem_cons_of_mem _ hx') with ⟨y', hy', hname, heq⟩
          rcases mem_cons.mp hy' with rfl | hy'
          · exact absurd hname (hy x' hx')
          · exact ⟨y', hy', hname, heq⟩
        · intro y' hy'
          rcases hys y' (mem_cons_of_mem _ hy') with ⟨x', hx', hname, heq⟩
          rcases mem_cons.mp hx' with rfl | hx'
          · exact absurd hname (hx y' hy')
          · exact ⟨x', hx', hname, heq⟩
      · rintro ⟨hhead, hxs, hys⟩
        refine ⟨?_, ?_⟩
        · intro x' hx'
          rcases mem_cons.mp hx' with rfl | hx'
          · exact ⟨y, mem_cons_self, hnames.1, hhead⟩
          · rcases hxs x' hx' with ⟨y', hy', h⟩
            exact ⟨y', mem_cons_of_mem _ hy', h⟩
        · intro y' hy'
          rcases mem_cons.mp hy' with rfl | hy'
          · exact ⟨x, mem_cons_self, hnames.1, hhead⟩
          · rcases hys y' hy' with ⟨x', hx', h⟩
            exact ⟨x', mem_cons_of_mem _ hx', h⟩

theorem pythonKeys_lawful : pythonKeys.Lawful where
  int s s' := by simp [pythonKeys, PyKey.eq_tuple]
  bool b b' := by simp [pythonKeys, PyKey.eq_tuple]
  str s s' := by simp [pythonKeys, PyKey.eq_tuple]
  null := by simp [pythonKeys, PyKey.eq_tuple]
  seq xs ys := by simp [pythonKeys, PyKey.eq_tuple]
  tuple xs ys := by simp [pythonKeys, PyKey.eq_tuple]
  set xs ys _ _ := by simp [pythonKeys, PyKey.eq_tuple, PyKey.eq_frozenset]
  record xs ys hnames hnodup := by
    rw [← covers_iff_forall₂ _ hnames hnodup]
    simp [pythonKeys, PyKey.eq_tuple, PyKey.eq_frozenset, PyKey.covers_pair]
  map xs ys _ _ := by
    simp [pythonKeys, PyKey.eq_tuple, PyKey.eq_frozenset, PyKey.covers_pair]
  variant tag tag' k k' := by simp [pythonKeys, PyKey.eq_tuple]

/-! ### Texts -/

/-- The text of a value as a string. -/
def keyText (j : Json) : String := String.ofList j.compact

theorem keyText_inj {j j' : Json} (hj : j.Wordy) (hj' : j'.Wordy) :
    keyText j = keyText j' ↔ j = j' := by
  rw [keyText, keyText, String.ofList_inj, Json.compact_inj hj hj']

theorem keyText_bool_inj {b b' : Bool} : keyText (.bool b) = keyText (.bool b') ↔ b = b' := by
  have hwordy : ∀ b, (Json.bool b).Wordy := fun _ => trivial
  rw [keyText_inj (hwordy b) (hwordy b'), Json.bool.injEq]

theorem keyText_str_inj {s s' : String} : keyText (.str s) = keyText (.str s') ↔ s = s' := by
  have hwordy : ∀ s, (Json.str s).Wordy := fun _ => trivial
  rw [keyText_inj (hwordy s) (hwordy s'), Json.str.injEq]

/-- An array of strings. -/
def strings (keys : List String) : Json := .arr (keys.map .str)

/-- An array of pairs of strings. -/
def pairs (fields : List (String × String)) : Json :=
  .arr (fields.map fun f => strings [f.1, f.2])

/-- An object with strings as values. -/
def members (fields : List (String × String)) : Json := .obj (fields.map fun f => (f.1, .str f.2))

theorem wordy_strings (keys : List String) : (strings keys).Wordy := by
  change Json.AllItems _ _ _
  rw [Json.allItems_iff]
  intro j hj
  rcases mem_map.mp hj with ⟨key, -, rfl⟩
  trivial

theorem wordy_pairs (fields : List (String × String)) : (pairs fields).Wordy := by
  change Json.AllItems _ _ _
  rw [Json.allItems_iff]
  intro j hj
  rcases mem_map.mp hj with ⟨f, -, rfl⟩
  exact wordy_strings _

theorem wordy_members (fields : List (String × String)) : (members fields).Wordy := by
  change Json.AllMembers _ _ _
  rw [Json.allMembers_iff]
  intro m hm
  rcases mem_map.mp hm with ⟨f, -, rfl⟩
  exact ⟨trivial, trivial⟩

theorem strings_inj {xs ys : List String} : strings xs = strings ys ↔ xs = ys := by
  rw [strings, strings, Json.arr.injEq]
  exact (map_injective_iff.mpr fun a b h => Json.str.inj h).eq_iff

theorem pairs_inj {xs ys : List (String × String)} : pairs xs = pairs ys ↔ xs = ys := by
  rw [pairs, pairs, Json.arr.injEq]
  refine (map_injective_iff.mpr fun a b h => ?_).eq_iff
  have hpair := strings_inj.mp h
  simp only [cons.injEq, and_true] at hpair
  exact Prod.ext hpair.1 hpair.2

theorem members_inj {xs ys : List (String × String)} : members xs = members ys ↔ xs = ys := by
  rw [members, members, Json.obj.injEq]
  refine (map_injective_iff.mpr fun a b h => ?_).eq_iff
  simp only [Prod.mk.injEq, Json.str.injEq] at h
  exact Prod.ext h.1 h.2

/-! ### Orders -/

/-- Lists without repetitions cover each other exactly if they are the same up
    to the order. -/
theorem covers_eq_iff_perm {α : Type} {xs ys : List α} (hxs : xs.Nodup) (hys : ys.Nodup) :
    Covers (fun x y => x = y) xs ys ↔ xs.Perm ys := by
  constructor
  · rintro ⟨hsub, hsub'⟩
    refine (subperm_of_subset hxs ?_).antisymm (subperm_of_subset hys ?_)
    · intro x hx
      rcases hsub x hx with ⟨y, hy, rfl⟩
      exact hy
    · intro y hy
      rcases hsub' y hy with ⟨x, hx, rfl⟩
      exact hx
  · intro h
    exact ⟨fun x hx => ⟨x, h.mem_iff.mp hx, rfl⟩, fun y hy => ⟨y, h.mem_iff.mpr hy, rfl⟩⟩

/-- Names that occur once make pairs that occur once. -/
theorem covers_pairs_iff_perm {xs ys : List (String × String)} (hxs : (xs.map (·.1)).Nodup)
    (hys : (ys.map (·.1)).Nodup) :
    Covers (fun x y => x.1 = y.1 ∧ x.2 = y.2) xs ys ↔ xs.Perm ys := by
  rw [← covers_eq_iff_perm hxs.of_map hys.of_map]
  simp only [Prod.ext_iff]

/-- An order of strings and one of pairs that tell texts, and the names of
    pairs, apart. -/
structure TextOrder where
  le : String → String → Prop
  lePair : String × String → String × String → Prop
  [decLe : DecidableRel le]
  [decPair : DecidableRel lePair]
  [total : Std.Total le]
  [trans : IsTrans String le]
  [totalPair : Std.Total lePair]
  [transPair : IsTrans (String × String) lePair]
  antisymm : ∀ x y, le x y → le y x → x = y
  antisymmPair : ∀ x y, lePair x y → lePair y x → x.1 = y.1

attribute [instance] TextOrder.decLe TextOrder.decPair TextOrder.total TextOrder.trans
  TextOrder.totalPair TextOrder.transPair

namespace TextOrder

variable (O : TextOrder)

def sort (keys : List String) : List String := keys.insertionSort O.le

def sortPairs (fields : List (String × String)) : List (String × String) :=
  fields.insertionSort O.lePair

theorem sort_eq_iff {xs ys : List String} : O.sort xs = O.sort ys ↔ xs.Perm ys :=
  ⟨perm_of_insertionSort_eq,
    insertionSort_eq_of_perm O.le fun x _ y _ => O.antisymm x y⟩

theorem sortPairs_eq_iff {xs ys : List (String × String)} (hxs : (xs.map (·.1)).Nodup) :
    O.sortPairs xs = O.sortPairs ys ↔ xs.Perm ys := by
  refine ⟨perm_of_insertionSort_eq, fun h => ?_⟩
  refine insertionSort_eq_of_perm O.lePair ?_ h
  intro x hx y hy hxy hyx
  -- Both are in the same list, where a name occurs once.
  exact inj_on_of_nodup_map hxs hx (h.mem_iff.mpr hy) (O.antisymmPair x y hxy hyx)

end TextOrder

/-- The order of the runtime for Node: by sixteen-bit units, and of pairs by
    the name. -/
def unitOrder : TextOrder where
  le a b := Utf16.units a ≤ Utf16.units b
  lePair a b := Utf16.units a.1 ≤ Utf16.units b.1
  total := ⟨fun a b => le_total (Utf16.units a) (Utf16.units b)⟩
  trans := ⟨fun _ _ _ => le_trans⟩
  totalPair := ⟨fun a b => le_total (Utf16.units a.1) (Utf16.units b.1)⟩
  transPair := ⟨fun _ _ _ => le_trans⟩
  antisymm _ _ hxy hyx := Utf16.units_inj.mp (le_antisymm hxy hyx)
  antisymmPair _ _ hxy hyx := Utf16.units_inj.mp (le_antisymm hxy hyx)

/-- The order of C++: by characters, and of pairs by the name first. -/
def pairOrder : TextOrder where
  le a b := a ≤ b
  lePair a b := toLex a ≤ toLex b
  total := ⟨fun a b => le_total a b⟩
  trans := ⟨fun _ _ _ => le_trans⟩
  totalPair := ⟨fun a b => le_total (toLex a) (toLex b)⟩
  transPair := ⟨fun _ _ _ => le_trans⟩
  antisymm _ _ hxy hyx := le_antisymm hxy hyx
  antisymmPair _ _ hxy hyx := congrArg Prod.fst (toLex_inj.mp (le_antisymm hxy hyx))

/-- The order of Rust: by characters, and of pairs by the name. -/
def nameOrder : TextOrder where
  le a b := a ≤ b
  lePair a b := a.1 ≤ b.1
  total := ⟨fun a b => le_total a b⟩
  trans := ⟨fun _ _ _ => le_trans⟩
  totalPair := ⟨fun a b => le_total a.1 b.1⟩
  transPair := ⟨fun _ _ _ => le_trans⟩
  antisymm _ _ hxy hyx := le_antisymm hxy hyx
  antisymmPair _ _ hxy hyx := le_antisymm hxy hyx

/-! ### Keys that are texts -/

/-- The keys that are JSON texts and nothing else. -/
def plainKeys (O : TextOrder) : Keys String where
  eq a b := a = b
  int text := keyText (members [("#bigint", text)])
  bool value := keyText (.bool value)
  str value := keyText (.str value)
  null := keyText .null
  seq keys := keyText (strings keys)
  set keys := keyText (strings (O.sort keys))
  tuple keys := keyText (strings keys)
  record fields := keyText (pairs (O.sortPairs fields))
  map entries := keyText (pairs (O.sortPairs entries))
  variant tag key := keyText (strings [tag, key])

/-- The keys of the runtime for Node. -/
def nodeKeys : Keys String := plainKeys unitOrder

/-- The keys of C++. -/
def cppKeys : Keys String := plainKeys pairOrder

/-- The keys of Rust name the kind in front of the text. -/
def rustKeys : Keys String where
  eq a b := a = b
  int text := "int:" ++ text
  bool value := "bool:" ++ keyText (.bool value)
  str value := "str:" ++ keyText (.str value)
  null := "null"
  seq keys := "seq:" ++ keyText (strings keys)
  set keys := "set:" ++ keyText (strings (nameOrder.sort keys))
  tuple keys := "tuple:" ++ keyText (strings keys)
  record fields := "record:" ++ keyText (members (nameOrder.sortPairs fields))
  map entries := "map:" ++ keyText (members (nameOrder.sortPairs entries))
  variant tag key := "variant:" ++ keyText (strings [tag, key])

theorem forall₂_eq_iff {xs ys : List String} :
    List.Forall₂ (fun x y => x = y) xs ys ↔ xs = ys := by
  rw [forall₂_eq_eq_eq]

/-- Pairs with the same names in the same places are the same up to the order
    exactly if they agree in every place. -/
theorem perm_iff_forall₂ {xs ys : List (String × String)}
    (hnames : xs.map (·.1) = ys.map (·.1)) (hnodup : (xs.map (·.1)).Nodup) :
    xs.Perm ys ↔ List.Forall₂ (fun x y => x.2 = y.2) xs ys := by
  have hcovers := covers_iff_forall₂ (fun a b : String => decide (a = b)) hnames hnodup
  simp only [decide_eq_true_eq] at hcovers
  rw [← hcovers, covers_pairs_iff_perm hnodup (hnames ▸ hnodup)]

theorem plainKeys_lawful (O : TextOrder) : (plainKeys O).Lawful where
  int s s' := by
    simp only [plainKeys, decide_eq_true_eq, keyText_inj (wordy_members _) (wordy_members _),
      members_inj]
    simp
  bool b b' := by
    simp only [plainKeys, decide_eq_true_eq]
    rw [keyText_bool_inj]
  str s s' := by
    simp only [plainKeys, decide_eq_true_eq]
    rw [keyText_str_inj]
  null := by simp [plainKeys]
  seq xs ys := by
    simp only [plainKeys, decide_eq_true_eq, keyText_inj (wordy_strings _) (wordy_strings _),
      strings_inj, forall₂_eq_iff]
  tuple xs ys := by
    simp only [plainKeys, decide_eq_true_eq, keyText_inj (wordy_strings _) (wordy_strings _),
      strings_inj, forall₂_eq_iff]
  set xs ys hxs hys := by
    simp only [plainKeys, decide_eq_true_eq] at hxs hys ⊢
    rw [keyText_inj (wordy_strings _) (wordy_strings _), strings_inj, O.sort_eq_iff,
      covers_eq_iff_perm hxs hys]
  record xs ys hnames hnodup := by
    simp only [plainKeys, decide_eq_true_eq]
    rw [keyText_inj (wordy_pairs _) (wordy_pairs _), pairs_inj, O.sortPairs_eq_iff hnodup,
      perm_iff_forall₂ hnames hnodup]
  map xs ys hxs hys := by
    simp only [plainKeys, decide_eq_true_eq]
    rw [keyText_inj (wordy_pairs _) (wordy_pairs _), pairs_inj, O.sortPairs_eq_iff hxs,
      covers_pairs_iff_perm hxs hys]
  variant tag tag' k k' := by
    simp only [plainKeys, decide_eq_true_eq, keyText_inj (wordy_strings _) (wordy_strings _),
      strings_inj]
    simp

theorem rustKeys_lawful : rustKeys.Lawful where
  int s s' := by simp [rustKeys]
  bool b b' := by
    simp only [rustKeys, decide_eq_true_eq, String.append_right_inj]
    rw [keyText_bool_inj]
  str s s' := by
    simp only [rustKeys, decide_eq_true_eq, String.append_right_inj]
    rw [keyText_str_inj]
  null := by simp [rustKeys]
  seq xs ys := by
    simp only [rustKeys, decide_eq_true_eq, String.append_right_inj,
      keyText_inj (wordy_strings _) (wordy_strings _), strings_inj, forall₂_eq_iff]
  tuple xs ys := by
    simp only [rustKeys, decide_eq_true_eq, String.append_right_inj,
      keyText_inj (wordy_strings _) (wordy_strings _), strings_inj, forall₂_eq_iff]
  set xs ys hxs hys := by
    simp only [rustKeys, decide_eq_true_eq, String.append_right_inj] at hxs hys ⊢
    rw [keyText_inj (wordy_strings _) (wordy_strings _), strings_inj, nameOrder.sort_eq_iff,
      covers_eq_iff_perm hxs hys]
  record xs ys hnames hnodup := by
    simp only [rustKeys, decide_eq_true_eq, String.append_right_inj]
    rw [keyText_inj (wordy_members _) (wordy_members _), members_inj,
      nameOrder.sortPairs_eq_iff hnodup, perm_iff_forall₂ hnames hnodup]
  map xs ys hxs hys := by
    simp only [rustKeys, decide_eq_true_eq, String.append_right_inj]
    rw [keyText_inj (wordy_members _) (wordy_members _), members_inj,
      nameOrder.sortPairs_eq_iff hxs, covers_pairs_iff_perm hxs hys]
  variant tag tag' k k' := by
    simp only [rustKeys, decide_eq_true_eq, String.append_right_inj,
      keyText_inj (wordy_strings _) (wordy_strings _), strings_inj]
    simp

end MirrorGate.Codec
