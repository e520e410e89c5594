import Mathlib.Data.List.Sort
import Mathlib.Data.String.Basic
import Mathlib.Tactic.Ring

/-!
# JSON Values and Their Canonical Text

JSON trees with integer numbers, and the canonical text of a tree: object
members in key order, no white space, everything outside printable ASCII
escaped. Text is a list of characters, all of them ASCII, so its length is
the number of bytes that are written.

The length is what size limits are about, and it does not depend on the order
of the members. `width` computes it by a sum over the tree, without sorting
and without building the text, and `length_dumps` says that the two agree.

`nodes` and `height` are the measures a structural limit is stated with. A
member's key counts as a node of its own, one level below the object.

## Main definitions

* `Json`: A JSON value without fractions.
* `Json.dumps`: The canonical text.
* `Json.width`: The length of the canonical text, as a sum.
* `Json.nodes`, `Json.height`: Structural size and depth.
* `Json.All`: A condition on every integer and every string of a tree.

## Theorems

* `length_intercalate`: The length of a separated list.
* `length_dumps`: The canonical text has the computed length.
* `allMembers_iff`, `nodesMembers_le`, `heightMembers_le`: The measures of an
  object from those of its members, and the same for arrays.
-/

/-- A JSON value. Numbers are integers: no document of interest has others. -/
inductive Json where
  | null
  | bool (value : Bool)
  | int (value : Int)
  | str (value : String)
  | arr (items : List Json)
  | obj (members : List (String × Json))

namespace Json

open List

/-- The hexadecimal digit of a number below sixteen. -/
def hexDigit (n : Nat) : Char := ("0123456789abcdef".toList[n]?).getD '0'

/-- The `\uXXXX` escape of a sixteen-bit unit. -/
def unicodeEscape (n : Nat) : List Char :=
  ['\\', 'u', hexDigit (n / 4096 % 16), hexDigit (n / 256 % 16), hexDigit (n / 16 % 16),
    hexDigit (n % 16)]

/-- One character of a string literal. The quote and the backslash are
    escaped by a backslash, other printable ASCII stands for itself, and
    characters beyond the first plane become a surrogate pair. -/
def escape (c : Char) : List Char :=
  if c.toNat = 34 ∨ c.toNat = 92 then ['\\', c]
  else if 32 ≤ c.toNat ∧ c.toNat ≤ 126 then [c]
  else if c.toNat = 10 then ['\\', 'n']
  else if c.toNat = 13 then ['\\', 'r']
  else if c.toNat = 9 then ['\\', 't']
  else if c.toNat = 12 then ['\\', 'f']
  else if c.toNat = 8 then ['\\', 'b']
  else if c.toNat < 65536 then unicodeEscape c.toNat
  else unicodeEscape (55296 + (c.toNat - 65536) / 1024) ++
    unicodeEscape (56320 + (c.toNat - 65536) % 1024)

/-- A string literal. -/
def quote (s : String) : List Char := '"' :: (s.toList.flatMap escape ++ ['"'])

/-- A decimal number. -/
def decimal : Int → List Char
  | .ofNat n => Nat.toDigits 10 n
  | .negSucc n => '-' :: Nat.toDigits 10 (n + 1)

mutual
/-- The canonical text of a value: members sorted by key, no white space. -/
def dumps : Json → List Char
  | .null => ['n', 'u', 'l', 'l']
  | .bool true => ['t', 'r', 'u', 'e']
  | .bool false => ['f', 'a', 'l', 's', 'e']
  | .int n => decimal n
  | .str s => quote s
  | .arr items => '[' :: ([','].intercalate (dumpsItems items) ++ [']'])
  | .obj members =>
    -- The values are written first, so that the recursion stays structural.
    let written := (dumpsMembers members).insertionSort (fun a b => a.1 ≤ b.1)
    '\x7b' :: ([','].intercalate (written.map (fun m => quote m.1 ++ ':' :: m.2)) ++ ['\x7d'])

def dumpsItems : List Json → List (List Char)
  | [] => []
  | j :: js => dumps j :: dumpsItems js

def dumpsMembers : List (String × Json) → List (String × List Char)
  | [] => []
  | (k, j) :: ms => (k, dumps j) :: dumpsMembers ms
end

mutual
/-- The length of the canonical text. -/
def width : Json → Nat
  | .null => 4
  | .bool true => 4
  | .bool false => 5
  | .int n => (decimal n).length
  | .str s => (quote s).length
  | .arr items => 2 + (widthItems items + (items.length - 1))
  | .obj members => 2 + (widthMembers members + (members.length - 1))

def widthItems : List Json → Nat
  | [] => 0
  | j :: js => width j + widthItems js

def widthMembers : List (String × Json) → Nat
  | [] => 0
  | (k, j) :: ms => ((quote k).length + 1 + width j) + widthMembers ms
end

mutual
/-- The number of values and keys of a tree. -/
def nodes : Json → Nat
  | .null | .bool _ | .int _ | .str _ => 1
  | .arr items => 1 + nodesItems items
  | .obj members => 1 + nodesMembers members

def nodesItems : List Json → Nat
  | [] => 0
  | j :: js => nodes j + nodesItems js

def nodesMembers : List (String × Json) → Nat
  | [] => 0
  | (_, j) :: ms => (1 + nodes j) + nodesMembers ms
end

mutual
/-- How far below the root the deepest value or key lies. -/
def height : Json → Nat
  | .null | .bool _ | .int _ | .str _ => 0
  | .arr items => heightItems items
  | .obj members => heightMembers members

def heightItems : List Json → Nat
  | [] => 0
  | j :: js => max (1 + height j) (heightItems js)

def heightMembers : List (String × Json) → Nat
  | [] => 0
  | (_, j) :: ms => max (1 + height j) (heightMembers ms)
end

mutual
/-- Every integer satisfies `p` and every string, keys included, `q`. -/
def All (p : Int → Prop) (q : String → Prop) : Json → Prop
  | .null | .bool _ => True
  | .int n => p n
  | .str s => q s
  | .arr items => AllItems p q items
  | .obj members => AllMembers p q members

def AllItems (p : Int → Prop) (q : String → Prop) : List Json → Prop
  | [] => True
  | j :: js => All p q j ∧ AllItems p q js

def AllMembers (p : Int → Prop) (q : String → Prop) : List (String × Json) → Prop
  | [] => True
  | (k, j) :: ms => (q k ∧ All p q j) ∧ AllMembers p q ms
end

/-! ### The length of the text -/

/-- The length of a list of texts written with a one-character separator. -/
theorem length_intercalate (c : Char) (ts : List (List Char)) :
    ([c].intercalate ts).length = (ts.map List.length).sum + (ts.length - 1) := by
  induction ts with
  | nil => rfl
  | cons t ts ih =>
    cases ts with
    | nil => simp [intercalate]
    | cons u us =>
      rw [intercalate_cons_cons]
      simp only [length_append, ih, length_cons, length_nil, map_cons,
        sum_cons]
      omega

theorem length_dumpsItems (items : List Json) : (dumpsItems items).length = items.length := by
  induction items with
  | nil => simp [dumpsItems]
  | cons j js ih => simp [dumpsItems, ih]

theorem length_dumpsMembers (members : List (String × Json)) :
    (dumpsMembers members).length = members.length := by
  induction members with
  | nil => simp [dumpsMembers]
  | cons m ms ih =>
    rcases m with ⟨k, j⟩
    simp [dumpsMembers, ih]

mutual
/-- The canonical text has the computed length: sorting the members permutes
    the summands. -/
theorem length_dumps (j : Json) : (dumps j).length = width j := by
  cases j with
  | null => simp [dumps, width]
  | bool b => cases b <;> simp [dumps, width]
  | int n => simp [dumps, width]
  | str s => simp [dumps, width]
  | arr items =>
    simp only [dumps, width, length_cons, length_append, length_nil]
    rw [length_intercalate, length_dumpsItems, sum_dumpsItems items]
    omega
  | obj members =>
    simp only [dumps, width, length_cons, length_append, length_nil]
    have hperm := perm_insertionSort (fun a b : String × List Char => a.1 ≤ b.1)
      (dumpsMembers members)
    have hsum := List.Perm.sum_nat ((hperm.map (fun m => quote m.1 ++ ':' :: m.2)).map length)
    rw [length_intercalate, hsum, length_map, hperm.length_eq, length_dumpsMembers,
      sum_dumpsMembers members]
    omega

theorem sum_dumpsItems (items : List Json) :
    ((dumpsItems items).map List.length).sum = widthItems items := by
  cases items with
  | nil => simp [dumpsItems, widthItems]
  | cons j js =>
    simp only [dumpsItems, widthItems, map_cons, sum_cons]
    rw [length_dumps j, sum_dumpsItems js]

theorem sum_dumpsMembers (members : List (String × Json)) :
    (((dumpsMembers members).map (fun m => quote m.1 ++ ':' :: m.2)).map List.length).sum
      = widthMembers members := by
  cases members with
  | nil => simp [dumpsMembers, widthMembers]
  | cons m ms =>
    rcases m with ⟨k, j⟩
    simp only [dumpsMembers, widthMembers, map_cons, sum_cons, length_append,
      length_cons]
    rw [length_dumps j, sum_dumpsMembers ms]
    omega
end

/-! ### Measures of arrays and objects -/

theorem allItems_iff {p : Int → Prop} {q : String → Prop} (items : List Json) :
    AllItems p q items ↔ ∀ j ∈ items, All p q j := by
  induction items with
  | nil => simp [AllItems]
  | cons j js ih => simp [AllItems, ih]

theorem allMembers_iff {p : Int → Prop} {q : String → Prop} (members : List (String × Json)) :
    AllMembers p q members ↔ ∀ m ∈ members, q m.1 ∧ All p q m.2 := by
  induction members with
  | nil => simp [AllMembers]
  | cons m ms ih =>
    rcases m with ⟨k, j⟩
    simp [AllMembers, ih]

theorem allMembers_append {p : Int → Prop} {q : String → Prop}
    (members members' : List (String × Json)) :
    AllMembers p q (members ++ members') ↔ AllMembers p q members ∧ AllMembers p q members' := by
  rw [allMembers_iff, allMembers_iff, allMembers_iff, forall_mem_append]

theorem nodesItems_le (n : Nat) (items : List Json) (h : ∀ j ∈ items, nodes j ≤ n) :
    nodesItems items ≤ n * items.length := by
  induction items with
  | nil => simp [nodesItems]
  | cons j js ih =>
    have hhead := h j (by simp)
    have htail := ih (fun i hi => h i (by simp [hi]))
    rw [nodesItems, length_cons, Nat.mul_succ]
    omega

theorem nodesMembers_le (n : Nat) (members : List (String × Json))
    (h : ∀ m ∈ members, nodes m.2 ≤ n) : nodesMembers members ≤ (n + 1) * members.length := by
  induction members with
  | nil => simp [nodesMembers]
  | cons m ms ih =>
    rcases m with ⟨k, j⟩
    have hhead : nodes j ≤ n := h (k, j) (by simp)
    have htail := ih (fun i hi => h i (by simp [hi]))
    rw [nodesMembers, length_cons, Nat.mul_succ]
    omega

theorem nodesMembers_append (members members' : List (String × Json)) :
    nodesMembers (members ++ members') = nodesMembers members + nodesMembers members' := by
  induction members with
  | nil => simp [nodesMembers]
  | cons m ms ih =>
    rcases m with ⟨k, j⟩
    simp only [cons_append, nodesMembers, ih]
    omega

theorem heightMembers_append (members members' : List (String × Json)) :
    heightMembers (members ++ members') = max (heightMembers members) (heightMembers members') := by
  induction members with
  | nil => simp [heightMembers]
  | cons m ms ih =>
    rcases m with ⟨k, j⟩
    simp only [cons_append, heightMembers, ih]
    omega

theorem heightItems_le (n : Nat) (items : List Json) (h : ∀ j ∈ items, height j ≤ n) :
    heightItems items ≤ n + 1 := by
  induction items with
  | nil => simp [heightItems]
  | cons j js ih =>
    have hhead := h j (by simp)
    have htail := ih (fun i hi => h i (by simp [hi]))
    rw [heightItems]
    omega

theorem heightMembers_le (n : Nat) (members : List (String × Json))
    (h : ∀ m ∈ members, height m.2 ≤ n) : heightMembers members ≤ n + 1 := by
  induction members with
  | nil => simp [heightMembers]
  | cons m ms ih =>
    rcases m with ⟨k, j⟩
    have hhead : height j ≤ n := h (k, j) (by simp)
    have htail := ih (fun i hi => h i (by simp [hi]))
    rw [heightMembers]
    omega

end Json
