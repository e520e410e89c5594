import MirrorGate.Lib.Json
import Mathlib.Data.List.Lex
import Mathlib.Tactic.IntervalCases

/-!
# Compact JSON Text

The text that the usual serializers write for a JSON value: no white space,
members in the order they have, and in a string only the quote, the backslash
and the control characters escaped.

Such a text can be read back. A character of a literal is determined by its
first characters, the literal by its closing quote, and an array or an object
by its closing bracket. So two values with the same text are the same value.
Numbers are left out: one number can start another.

Sorting is how a text is made independent of an order. A sorted list is
determined by its elements, as long as the order tells them apart. The order of
strings in sixteen-bit units does so: a string is determined by its units.

## Main definitions

* `Json.plainEscape`, `Json.plainQuote`: A character and a string literal.
* `Json.compact`: The text of a value.
* `Json.Wordy`: A value without numbers.
* `Utf16.units`: The sixteen-bit units of a text.

## Theorems

* `plainQuote_append_inj`: A literal can be read back.
* `compact_append_inj`, `compact_inj`: A text can be read back.
* `Utf16.units_inj`: Sixteen-bit units can be read back.
* `List.perm_of_insertionSort_eq`, `List.insertionSort_eq_of_perm`: A sorted list
  is determined by its elements.
-/

namespace Json

/-! ### Literals -/

/-- One character of a string literal. -/
def plainEscape (c : Char) : List Char :=
  if c.toNat = 34 then ['\\', '"']
  else if c.toNat = 92 then ['\\', '\\']
  else if c.toNat = 8 then ['\\', 'b']
  else if c.toNat = 9 then ['\\', 't']
  else if c.toNat = 10 then ['\\', 'n']
  else if c.toNat = 12 then ['\\', 'f']
  else if c.toNat = 13 then ['\\', 'r']
  else if c.toNat < 32 then unicodeEscape c.toNat
  else [c]

/-- A string literal. -/
def plainQuote (s : String) : List Char := '"' :: (s.toList.flatMap plainEscape ++ ['"'])

/-- The value of a hexadecimal digit. -/
def hexValue (c : Char) : Nat := if c.toNat < 58 then c.toNat - 48 else c.toNat - 87

/-- What stands after a backslash. -/
def readEscaped : List Char → Option (Char × List Char)
  | [] => none
  | c :: rest =>
    if c = 'b' then some (Char.ofNat 8, rest)
    else if c = 't' then some (Char.ofNat 9, rest)
    else if c = 'n' then some (Char.ofNat 10, rest)
    else if c = 'f' then some (Char.ofNat 12, rest)
    else if c = 'r' then some (Char.ofNat 13, rest)
    else if c = 'u' then
      match rest with
      | _ :: _ :: a :: b :: rest => some (Char.ofNat (16 * hexValue a + hexValue b), rest)
      | _ => none
    else some (c, rest)

/-- One character of a string literal and what follows it. -/
def readChar : List Char → Option (Char × List Char)
  | [] => none
  | c :: rest => if c = '\\' then readEscaped rest else some (c, rest)

theorem eq_ofNat {c : Char} {n : Nat} (h : c.toNat = n) : c = Char.ofNat n := by
  rw [← h, Char.ofNat_toNat]

theorem readChar_plainEscape (c : Char) (rest : List Char) :
    readChar (plainEscape c ++ rest) = some (c, rest) := by
  unfold plainEscape
  split_ifs with hquote hslash hb ht hn hf hr hcontrol
  · rw [eq_ofNat hquote]
    rfl
  · rw [eq_ofNat hslash]
    rfl
  · rw [eq_ofNat hb]
    rfl
  · rw [eq_ofNat ht]
    rfl
  · rw [eq_ofNat hn]
    rfl
  · rw [eq_ofNat hf]
    rfl
  · rw [eq_ofNat hr]
    rfl
  · -- The remaining control characters have two digits that matter.
    obtain ⟨n, hn⟩ : ∃ n, c.toNat = n := ⟨_, rfl⟩
    rw [hn] at hcontrol ⊢
    rw [eq_ofNat hn]
    interval_cases n <;> rfl
  · have hc : c ≠ '\\' := by
      rintro rfl
      exact hslash rfl
    simp [readChar, hc]

theorem plainEscape_append_inj {c c' : Char} {rest rest' : List Char}
    (h : plainEscape c ++ rest = plainEscape c' ++ rest') : c = c' ∧ rest = rest' := by
  have hread := readChar_plainEscape c rest
  rw [h, readChar_plainEscape] at hread
  cases hread
  exact ⟨rfl, rfl⟩

/-- No character is written with a quote in front. -/
theorem plainEscape_append_ne (c : Char) (rest rest' : List Char) :
    plainEscape c ++ rest ≠ '"' :: rest' := by
  intro h
  have hread := readChar_plainEscape c rest
  rw [h] at hread
  cases hread
  cases h

theorem flatMap_plainEscape_inj {cs cs' rest rest' : List Char}
    (h : cs.flatMap plainEscape ++ '"' :: rest = cs'.flatMap plainEscape ++ '"' :: rest') :
    cs = cs' ∧ rest = rest' := by
  induction cs generalizing cs' with
  | nil =>
    cases cs' with
    | nil =>
      cases h
      exact ⟨rfl, rfl⟩
    | cons c' cs' =>
      rw [List.flatMap_cons, List.append_assoc] at h
      exact absurd h.symm (plainEscape_append_ne _ _ _)
  | cons c cs ih =>
    cases cs' with
    | nil =>
      rw [List.flatMap_cons, List.append_assoc] at h
      exact absurd h (plainEscape_append_ne _ _ _)
    | cons c' cs' =>
      rw [List.flatMap_cons, List.flatMap_cons, List.append_assoc, List.append_assoc] at h
      obtain ⟨rfl, hrest⟩ := plainEscape_append_inj h
      obtain ⟨rfl, rfl⟩ := ih hrest
      exact ⟨rfl, rfl⟩

/-- A literal can be read back. -/
theorem plainQuote_append_inj {s s' : String} {rest rest' : List Char}
    (h : plainQuote s ++ rest = plainQuote s' ++ rest') : s = s' ∧ rest = rest' := by
  have hbody : s.toList.flatMap plainEscape ++ '"' :: rest =
      s'.toList.flatMap plainEscape ++ '"' :: rest' := by
    simpa [plainQuote] using h
  obtain ⟨hs, rfl⟩ := flatMap_plainEscape_inj hbody
  exact ⟨String.toList_inj.mp hs, rfl⟩

/-! ### Values -/

mutual
/-- The text of a value. -/
def compact : Json → List Char
  | .null => ['n', 'u', 'l', 'l']
  | .bool true => ['t', 'r', 'u', 'e']
  | .bool false => ['f', 'a', 'l', 's', 'e']
  | .int n => decimal n
  | .str s => plainQuote s
  | .arr items => '[' :: compactItems items
  | .obj members => '\x7b' :: compactMembers members

/-- The elements of an array and its bracket. -/
def compactItems : List Json → List Char
  | [] => [']']
  | j :: js => compact j ++ moreItems js

/-- The elements that follow another one. -/
def moreItems : List Json → List Char
  | [] => [']']
  | j :: js => ',' :: (compact j ++ moreItems js)

/-- The members of an object and its brace. -/
def compactMembers : List (String × Json) → List Char
  | [] => ['\x7d']
  | (k, j) :: ms => plainQuote k ++ ':' :: (compact j ++ moreMembers ms)

/-- The members that follow another one. -/
def moreMembers : List (String × Json) → List Char
  | [] => ['\x7d']
  | (k, j) :: ms => ',' :: (plainQuote k ++ ':' :: (compact j ++ moreMembers ms))
end

/-- A value without numbers. -/
abbrev Wordy (j : Json) : Prop := j.All (fun _ => False) fun _ => True

/-- The first character of a text, which tells what kind of value it is. -/
def lead : Json → Char
  | .null => 'n'
  | .bool true => 't'
  | .bool false => 'f'
  | .int _ => '0'
  | .str _ => '"'
  | .arr _ => '['
  | .obj _ => '\x7b'

theorem head_compact {j : Json} (hj : j.Wordy) (rest : List Char) :
    (compact j ++ rest).head? = some j.lead := by
  cases j with
  | int n => exact hj.elim
  | bool b => cases b <;> rfl
  | str s => rfl
  | arr items => rw [compact]; rfl
  | obj members => rw [compact]; rfl
  | null => rfl

theorem compact_append_ne {j : Json} {c : Char} (hj : j.Wordy) (hc : j.lead ≠ c)
    (rest rest' : List Char) : compact j ++ rest ≠ c :: rest' := by
  intro h
  have hhead := head_compact hj rest
  rw [h, List.head?_cons] at hhead
  exact hc (Option.some.inj hhead).symm

theorem lead_ne_bracket (j : Json) : j.lead ≠ ']' := by
  cases j with
  | bool b => cases b <;> decide
  | _ => simp [lead]

mutual
/-- A text can be read back. -/
theorem compact_append_inj : ∀ (j j' : Json) (rest rest' : List Char), j.Wordy → j'.Wordy →
    compact j ++ rest = compact j' ++ rest' → j = j' ∧ rest = rest'
  | j, j', rest, rest', hj, hj', h => by
      have hlead : j.lead = j'.lead := by
        have hhead := head_compact hj rest
        rw [h, head_compact hj'] at hhead
        exact (Option.some.inj hhead).symm
      -- The first character leaves the same kind of value on both sides.
      cases j with
      | int n => exact hj.elim
      | null =>
        cases j' with
        | null => exact ⟨rfl, List.append_cancel_left h⟩
        | bool b => cases b <;> simp [lead] at hlead
        | _ => simp [lead] at hlead
      | bool b =>
        cases j' with
        | bool b' =>
          have hb : b = b' := by cases b <;> cases b' <;> simp [lead] at hlead ⊢
          subst hb
          exact ⟨rfl, List.append_cancel_left h⟩
        | _ => cases b <;> simp [lead] at hlead
      | str s =>
        cases j' with
        | str s' =>
          rw [compact, compact] at h
          obtain ⟨rfl, rfl⟩ := plainQuote_append_inj h
          exact ⟨rfl, rfl⟩
        | bool b => cases b <;> simp [lead] at hlead
        | _ => simp [lead] at hlead
      | arr items =>
        cases j' with
        | arr items' =>
          rw [compact, compact] at h
          obtain ⟨rfl, rfl⟩ := compactItems_append_inj items items' rest rest' hj hj'
            (List.cons_inj_right _ |>.mp h)
          exact ⟨rfl, rfl⟩
        | bool b => cases b <;> simp [lead] at hlead
        | _ => simp [lead] at hlead
      | obj members =>
        cases j' with
        | obj members' =>
          rw [compact, compact] at h
          obtain ⟨rfl, rfl⟩ := compactMembers_append_inj members members' rest rest' hj hj'
            (List.cons_inj_right _ |>.mp h)
          exact ⟨rfl, rfl⟩
        | bool b => cases b <;> simp [lead] at hlead
        | _ => simp [lead] at hlead

theorem compactItems_append_inj : ∀ (js js' : List Json) (rest rest' : List Char),
    AllItems (fun _ => False) (fun _ => True) js → AllItems (fun _ => False) (fun _ => True) js' →
    compactItems js ++ rest = compactItems js' ++ rest' → js = js' ∧ rest = rest'
  | [], [], _, _, _, _, h => ⟨rfl, List.append_cancel_left h⟩
  | [], j' :: js', _, _, _, hjs', h => by
      rw [compactItems, compactItems, List.append_assoc] at h
      exact absurd h.symm (compact_append_ne hjs'.1 (lead_ne_bracket _) _ _)
  | j :: js, [], _, _, hjs, _, h => by
      rw [compactItems, compactItems, List.append_assoc] at h
      exact absurd h (compact_append_ne hjs.1 (lead_ne_bracket _) _ _)
  | j :: js, j' :: js', rest, rest', hjs, hjs', h => by
      rw [compactItems, compactItems, List.append_assoc, List.append_assoc] at h
      obtain ⟨rfl, hmore⟩ := compact_append_inj j j' _ _ hjs.1 hjs'.1 h
      obtain ⟨rfl, rfl⟩ := moreItems_append_inj js js' rest rest' hjs.2 hjs'.2 hmore
      exact ⟨rfl, rfl⟩

theorem moreItems_append_inj : ∀ (js js' : List Json) (rest rest' : List Char),
    AllItems (fun _ => False) (fun _ => True) js → AllItems (fun _ => False) (fun _ => True) js' →
    moreItems js ++ rest = moreItems js' ++ rest' → js = js' ∧ rest = rest'
  | [], [], _, _, _, _, h => ⟨rfl, List.append_cancel_left h⟩
  | [], j' :: js', _, _, _, _, h => by simp [moreItems] at h
  | j :: js, [], _, _, _, _, h => by simp [moreItems] at h
  | j :: js, j' :: js', rest, rest', hjs, hjs', h => by
      rw [moreItems, moreItems, List.cons_append, List.cons_append, List.append_assoc,
        List.append_assoc, List.cons_inj_right] at h
      obtain ⟨rfl, hmore⟩ := compact_append_inj j j' _ _ hjs.1 hjs'.1 h
      obtain ⟨rfl, rfl⟩ := moreItems_append_inj js js' rest rest' hjs.2 hjs'.2 hmore
      exact ⟨rfl, rfl⟩

theorem compactMembers_append_inj : ∀ (ms ms' : List (String × Json)) (rest rest' : List Char),
    AllMembers (fun _ => False) (fun _ => True) ms →
    AllMembers (fun _ => False) (fun _ => True) ms' →
    compactMembers ms ++ rest = compactMembers ms' ++ rest' → ms = ms' ∧ rest = rest'
  | [], [], _, _, _, _, h => ⟨rfl, List.append_cancel_left h⟩
  | [], (k', j') :: ms', _, _, _, _, h => by simp [compactMembers, plainQuote] at h
  | (k, j) :: ms, [], _, _, _, _, h => by simp [compactMembers, plainQuote] at h
  | (k, j) :: ms, (k', j') :: ms', rest, rest', hms, hms', h => by
      rw [compactMembers, compactMembers, List.append_assoc, List.append_assoc] at h
      obtain ⟨rfl, hvalue⟩ := plainQuote_append_inj h
      rw [List.cons_append, List.cons_append, List.cons_inj_right, List.append_assoc,
        List.append_assoc] at hvalue
      obtain ⟨rfl, hmore⟩ := compact_append_inj j j' _ _ hms.1.2 hms'.1.2 hvalue
      obtain ⟨rfl, rfl⟩ := moreMembers_append_inj ms ms' rest rest' hms.2 hms'.2 hmore
      exact ⟨rfl, rfl⟩

theorem moreMembers_append_inj : ∀ (ms ms' : List (String × Json)) (rest rest' : List Char),
    AllMembers (fun _ => False) (fun _ => True) ms →
    AllMembers (fun _ => False) (fun _ => True) ms' →
    moreMembers ms ++ rest = moreMembers ms' ++ rest' → ms = ms' ∧ rest = rest'
  | [], [], _, _, _, _, h => ⟨rfl, List.append_cancel_left h⟩
  | [], (k', j') :: ms', _, _, _, _, h => by simp [moreMembers] at h
  | (k, j) :: ms, [], _, _, _, _, h => by simp [moreMembers] at h
  | (k, j) :: ms, (k', j') :: ms', rest, rest', hms, hms', h => by
      rw [moreMembers, moreMembers, List.cons_append, List.cons_append, List.cons_inj_right,
        List.append_assoc, List.append_assoc] at h
      obtain ⟨rfl, hvalue⟩ := plainQuote_append_inj h
      rw [List.cons_append, List.cons_append, List.cons_inj_right, List.append_assoc,
        List.append_assoc] at hvalue
      obtain ⟨rfl, hmore⟩ := compact_append_inj j j' _ _ hms.1.2 hms'.1.2 hvalue
      obtain ⟨rfl, rfl⟩ := moreMembers_append_inj ms ms' rest rest' hms.2 hms'.2 hmore
      exact ⟨rfl, rfl⟩
end

theorem compact_inj {j j' : Json} (hj : j.Wordy) (hj' : j'.Wordy) :
    compact j = compact j' ↔ j = j' := by
  refine ⟨fun h => ?_, fun h => by rw [h]⟩
  have hnil : compact j ++ [] = compact j' ++ [] := by rw [h]
  exact (compact_append_inj j j' [] [] hj hj' hnil).1

end Json

/-! ### Orders -/

namespace Utf16

/-- The sixteen-bit units of a character: a pair of surrogates beyond the first
    plane. -/
def unitsOf (c : Char) : List Nat :=
  if c.toNat < 65536 then [c.toNat]
  else [55296 + (c.toNat - 65536) / 1024, 56320 + (c.toNat - 65536) % 1024]

def units (s : String) : List Nat := s.toList.flatMap unitsOf

/-- One character and what follows it. -/
def readUnits : List Nat → Option (Char × List Nat)
  | [] => none
  | n :: rest =>
    if 55296 ≤ n ∧ n < 56320 then
      match rest with
      | [] => none
      | m :: rest => some (Char.ofNat (65536 + (n - 55296) * 1024 + (m - 56320)), rest)
    else some (Char.ofNat n, rest)

theorem readUnits_unitsOf (c : Char) (rest : List Nat) :
    readUnits (unitsOf c ++ rest) = some (c, rest) := by
  have hvalid : c.toNat < 55296 ∨ 57343 < c.toNat ∧ c.toNat < 1114112 := c.valid
  unfold unitsOf
  by_cases hplane : c.toNat < 65536
  · have hsingle : ¬ (55296 ≤ c.toNat ∧ c.toNat < 56320) := by omega
    rw [if_pos hplane]
    simp [readUnits, hsingle]
  · have hhigh : 55296 ≤ 55296 + (c.toNat - 65536) / 1024 ∧
        55296 + (c.toNat - 65536) / 1024 < 56320 := by omega
    have hback : 65536 + (55296 + (c.toNat - 65536) / 1024 - 55296) * 1024 +
        (56320 + (c.toNat - 65536) % 1024 - 56320) = c.toNat := by omega
    rw [if_neg hplane]
    simp only [List.cons_append, List.nil_append, readUnits, if_pos hhigh, hback, Char.ofNat_toNat]

theorem flatMap_unitsOf_inj {cs cs' : List Char} (h : cs.flatMap unitsOf = cs'.flatMap unitsOf) :
    cs = cs' := by
  have hread : ∀ (c : Char) (cs : List Char),
      readUnits ((c :: cs).flatMap unitsOf) = some (c, cs.flatMap unitsOf) := by
    intro c cs
    rw [List.flatMap_cons, readUnits_unitsOf]
  induction cs generalizing cs' with
  | nil =>
    cases cs' with
    | nil => rfl
    | cons c' cs' =>
      have hc := hread c' cs'
      rw [← h] at hc
      cases hc
  | cons c cs ih =>
    have hc := hread c cs
    rw [h] at hc
    cases cs' with
    | nil => cases hc
    | cons c' cs' =>
      rw [hread] at hc
      have hpair := Prod.mk.inj (Option.some.inj hc)
      rw [hpair.1, ih hpair.2.symm]

/-- Sixteen-bit units can be read back. -/
theorem units_inj {s s' : String} : units s = units s' ↔ s = s' :=
  ⟨fun h => String.toList_inj.mp (flatMap_unitsOf_inj h), fun h => by rw [h]⟩

end Utf16

theorem List.perm_of_insertionSort_eq {α : Type} {r : α → α → Prop} [DecidableRel r]
    {xs ys : List α} (h : xs.insertionSort r = ys.insertionSort r) : xs.Perm ys := by
  have hsorted : (xs.insertionSort r).Perm (ys.insertionSort r) := h ▸ List.Perm.refl _
  exact ((xs.perm_insertionSort r).symm.trans hsorted).trans (ys.perm_insertionSort r)

/-- A sorted list is determined by its elements, if the order tells them
    apart. -/
theorem List.insertionSort_eq_of_perm {α : Type} (r : α → α → Prop) [DecidableRel r]
    [Std.Total r] [IsTrans α r] {xs ys : List α}
    (hanti : ∀ x ∈ xs, ∀ y ∈ ys, r x y → r y x → x = y) (h : xs.Perm ys) :
    xs.insertionSort r = ys.insertionSort r := by
  refine List.Perm.eq_of_pairwise ?_ (List.pairwise_insertionSort r xs)
    (List.pairwise_insertionSort r ys)
    (((xs.perm_insertionSort r).trans h).trans (ys.perm_insertionSort r).symm)
  intro x y hx hy
  exact hanti x ((List.mem_insertionSort r).mp hx) y ((List.mem_insertionSort r).mp hy)
