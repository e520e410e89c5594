import Mathlib.Data.List.Basic
import Mathlib.Tactic.Basic

/-!
# Delimited Segments

A stream consists of segments with a delimiter between them, and all but the
last segment are terminated. Under a limit on the length, the segments that are
delivered are the terminated ones before the first that is too long, and a
stream is broken if a segment is too long or the last one is not empty.

A reader that has seen only the beginning of a stream can cut off the segments
that are complete. `Cuts` says what it has cut off, and whether it goes on with
what is left or has seen too much.

## Main definitions

* `Segments.delivered`, `Segments.Broken`: What a stream says.
* `Segments.Cuts`: What is cut off the beginning of a stream.

## Theorems

* `Segments.Cuts.ends`, `Segments.Cuts.goesOn`: What is cut off is what every
  continuation delivers first.
-/

namespace Segments

open List

variable {α : Type} [BEq α] (d : α) (limit : Nat)

/-- The terminated segments before the first that is too long. -/
def delivered (stream : List α) : List (List α) :=
  (stream.splitOn d).dropLast.takeWhile fun segment => segment.length ≤ limit

/-- A segment is too long, or the stream ends inside a segment. -/
def Broken (stream : List α) : Prop :=
  (∃ segment ∈ stream.splitOn d, limit < segment.length) ∨
    (stream.splitOn d).getLast? ≠ some []

/-- Complete segments are cut off. What is left has no delimiter, or is nothing
    because a segment is too long. -/
inductive Cuts : List α → List (List α) → Option (List α) → Prop
  | rest {p : List α} : d ∉ p → Cuts p [] (some p)
  | long {p q : List α} : d ∉ p → limit < p.length → Cuts (p ++ q) [] none
  | next {p r : List α} {ps : List (List α)} {o : Option (List α)} :
      d ∉ p → p.length ≤ limit → Cuts r ps o → Cuts (p ++ d :: r) (p :: ps) o

variable [LawfulBEq α] {d limit} {p rest : List α}

theorem splitOn_of_notMem (h : d ∉ p) : p.splitOn d = [p] :=
  splitOnP_eq_singleton fun _ hx => beq_eq_false_iff_ne.mpr (ne_of_mem_of_not_mem hx h)

theorem splitOn_append_cons (h : d ∉ p) : (p ++ d :: rest).splitOn d = p :: rest.splitOn d :=
  splitOnP_append_cons_of_forall_mem
    (fun _ hx => beq_eq_false_iff_ne.mpr (ne_of_mem_of_not_mem hx h)) d (beq_self_eq_true d) rest

theorem delivered_of_notMem (h : d ∉ p) : delivered d limit p = [] := by
  rw [delivered, splitOn_of_notMem h]
  rfl

theorem broken_of_notMem (h : d ∉ p) : Broken d limit p ↔ p ≠ [] := by
  rw [Broken, splitOn_of_notMem h]
  simp only [mem_singleton, exists_eq_left, getLast?_singleton, ne_eq, Option.some.injEq,
    or_iff_right_iff_imp]
  rintro hlong rfl
  exact Nat.not_lt_zero _ hlong

theorem delivered_cons (h : d ∉ p) : delivered d limit (p ++ d :: rest) =
    if p.length ≤ limit then p :: delivered d limit rest else [] := by
  rw [delivered, splitOn_append_cons h, dropLast_cons_of_ne_nil (splitOn_ne_nil _ _),
    takeWhile_cons, delivered]
  simp only [decide_eq_true_eq]

theorem broken_cons (h : d ∉ p) :
    Broken d limit (p ++ d :: rest) ↔ limit < p.length ∨ Broken d limit rest := by
  rw [Broken, splitOn_append_cons h, getLast?_cons_of_ne_nil (splitOn_ne_nil _ _), Broken]
  simp only [mem_cons, exists_eq_or_imp, or_assoc]

/-- What comes after too much does not matter. -/
theorem delivered_long (h : d ∉ p) (hlong : limit < p.length) :
    delivered d limit (p ++ rest) = [] ∧ Broken d limit (p ++ rest) := by
  by_cases hd : d ∈ rest
  · rcases eq_append_cons_of_mem hd with ⟨q, r, rfl, hq⟩
    have hnot : d ∉ p ++ q := by simp [h, hq]
    have hlength : limit < (p ++ q).length := by
      rw [length_append]
      omega
    rw [← append_assoc, delivered_cons hnot, broken_cons hnot, if_neg (Nat.not_le.mpr hlength)]
    exact ⟨rfl, .inl hlength⟩
  · have hnot : d ∉ p ++ rest := by simp [h, hd]
    refine ⟨delivered_of_notMem hnot, (broken_of_notMem hnot).mpr ?_⟩
    intro hnil
    rw [(append_eq_nil_iff.mp hnil).1] at hlong
    exact Nat.not_lt_zero _ hlong

namespace Cuts

variable {s : List α} {ps : List (List α)} {o : Option (List α)}

omit [BEq α] [LawfulBEq α] in
theorem notMem (h : Cuts d limit s ps o) : ∀ r ∈ o, d ∉ r := by
  induction h with
  | rest hp =>
    rintro r ⟨⟩
    exact hp
  | long => simp
  | next _ _ _ ih => exact ih

/-- A reader that has seen too much has cut off everything that is delivered. -/
theorem ends (h : Cuts d limit s ps none) (tail : List α) :
    delivered d limit (s ++ tail) = ps ∧ Broken d limit (s ++ tail) := by
  generalize ho : none = o at h
  induction h with
  | rest => cases ho
  | long hp hlong =>
    rw [append_assoc]
    exact delivered_long hp hlong
  | next hp hshort _ ih =>
    rcases ih ho with ⟨hdelivered, hbroken⟩
    rw [append_assoc, cons_append, delivered_cons hp, if_pos hshort, hdelivered,
      broken_cons hp]
    exact ⟨rfl, .inr hbroken⟩

/-- A reader that goes on has cut off what is delivered first. -/
theorem goesOn {r : List α} (h : Cuts d limit s ps (some r)) (tail : List α) :
    delivered d limit (s ++ tail) = ps ++ delivered d limit (r ++ tail) ∧
      (Broken d limit (s ++ tail) ↔ Broken d limit (r ++ tail)) := by
  generalize ho : some r = o at h
  induction h with
  | rest =>
    cases ho
    exact ⟨rfl, Iff.rfl⟩
  | long => cases ho
  | next hp hshort _ ih =>
    rcases ih ho with ⟨hdelivered, hbroken⟩
    rw [append_assoc, cons_append, delivered_cons hp, if_pos hshort, hdelivered,
      broken_cons hp, hbroken]
    exact ⟨rfl, or_iff_right (Nat.not_lt.mpr hshort)⟩

end Cuts

end Segments
