import Mathlib.Data.String.Basic

/-!
# Text Functions

The string functions of a scripting language that a checker of small text
files needs: lines, words, stripping, and slash-separated paths. All of them
work on lists of characters by structural recursion, so that a closed call
evaluates in the kernel.

A path is split at every slash and joined with single slashes. The two are
inverse as long as no component contains a slash, which is the only fact
about paths the rest of a development needs.

## Main definitions

* `Text.splitLines`: The lines of a text, for every line break there is.
* `Text.splitWords`: The words of a text, separated by white space.
* `Text.strip`: A text without its outer white space.
* `Text.splitPath`, `Text.joinPath`: Slash-separated components.

## Theorems

* `joinPath_splitPath`, `splitPath_joinPath`: Splitting and joining are
  inverse.
-/

namespace Text

open List

/-- The characters that end a line. -/
def isLineBreak (c : Char) : Bool :=
  c.toNat = 10 || c.toNat = 13 || c.toNat = 11 || c.toNat = 12 || c.toNat = 28 || c.toNat = 29 ||
    c.toNat = 30 || c.toNat = 133 || c.toNat = 8232 || c.toNat = 8233

/-- The ASCII white space characters. -/
def isBlank (c : Char) : Bool :=
  c.toNat = 32 || (9 ≤ c.toNat && c.toNat ≤ 13) || (28 ≤ c.toNat && c.toNat ≤ 31)

/-- Split off lines while `line` holds the current one in reverse. A carriage
    return followed by a line feed is one break, and a break at the end of
    the text opens no further line. -/
def splitLinesFrom (line : List Char) : List Char → List (List Char)
  | [] => if line.isEmpty then [] else [line.reverse]
  | '\r' :: '\n' :: rest => line.reverse :: splitLinesFrom [] rest
  | c :: rest =>
    if isLineBreak c then line.reverse :: splitLinesFrom [] rest
    else splitLinesFrom (c :: line) rest

/-- The lines of a text. -/
def splitLines (text : List Char) : List (List Char) := splitLinesFrom [] text

/-- The nonempty pieces of a text between white space. -/
def splitWords (text : List Char) : List (List Char) :=
  (text.splitOnP isBlank).filter (fun word => !word.isEmpty)

/-- A text without leading and trailing white space. -/
def strip (text : List Char) : List Char :=
  ((text.dropWhile isBlank).reverse.dropWhile isBlank).reverse

/-- The components of a path. -/
def splitPath (text : String) : List String := (text.toList.splitOn '/').map String.ofList

/-- The path with the given components. -/
def joinPath (parts : List String) : String :=
  String.ofList (['/'].intercalate (parts.map String.toList))

theorem joinPath_splitPath (text : String) : joinPath (splitPath text) = text := by
  unfold joinPath splitPath
  rw [map_map]
  have hid : (String.toList ∘ String.ofList) = id := by
    funext cs
    simp
  rw [hid, map_id, intercalate_splitOn, String.ofList_toList]

/-- Joining and splitting again gives the components back, provided none of
    them contains the separator. -/
theorem splitPath_joinPath (parts : List String) (hne : parts ≠ [])
    (hslash : ∀ part ∈ parts, '/' ∉ part.toList) : splitPath (joinPath parts) = parts := by
  unfold joinPath splitPath
  rw [String.toList_ofList, splitOn_intercalate]
  · rw [map_map]
    have hid : (String.ofList ∘ String.toList) = id := by
      funext s
      simp
    rw [hid, map_id]
  · intro cs hcs
    rcases mem_map.mp hcs with ⟨part, hpart, rfl⟩
    exact hslash part hpart
  · simpa using hne

/-- The pieces of a split list contain no separator. -/
theorem eq_false_of_mem_splitOnP {α : Type} (p : α → Bool) (text piece : List α)
    (h : piece ∈ text.splitOnP p) : ∀ c ∈ piece, p c = false := by
  induction text generalizing piece with
  | nil =>
    rw [splitOnP_nil, mem_singleton] at h
    simp [h]
  | cons d rest ih =>
    rw [splitOnP_cons_eq_if_modifyHead] at h
    split at h
    · rcases mem_cons.mp h with rfl | h
      · simp
      · exact ih piece h
    · next hd =>
      -- The head piece grows by a character that is no separator.
      rcases hs : rest.splitOnP p with _ | ⟨first, others⟩
      · simp [hs] at h
      · rw [hs, modifyHead_cons, mem_cons] at h
        rcases h with rfl | h
        · intro c hc
          rcases mem_cons.mp hc with rfl | hc
          · simpa using hd
          · exact ih first (by simp [hs]) c hc
        · exact ih piece (by simp [hs, h])

/-- No component of a split path contains the separator. -/
theorem not_mem_of_mem_splitPath (text part : String) (h : part ∈ splitPath text) :
    '/' ∉ part.toList := by
  unfold splitPath at h
  rcases mem_map.mp h with ⟨cs, hcs, rfl⟩
  rw [String.toList_ofList]
  intro hmem
  have := eq_false_of_mem_splitOnP _ _ _ hcs '/' hmem
  simp at this

/-- The first component of a text that starts with it. -/
theorem splitPath_start {start text : String} (hslash : '/' ∉ start.toList)
    (h : start.toList ++ ['/'] <+: text.toList) : ∃ rest, splitPath text = start :: rest := by
  rcases h with ⟨tail, htail⟩
  unfold splitPath
  rw [← htail, append_assoc, singleton_append,
    splitOn_append_cons_self_of_not_mem hslash, map_cons, String.ofList_toList]
  exact ⟨_, rfl⟩

end Text
