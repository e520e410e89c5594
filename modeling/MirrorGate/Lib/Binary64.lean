import Mathlib.Algebra.Order.Floor.Ring
import Mathlib.Data.Int.Log
import Mathlib.Data.Rat.Floor
import Mathlib.Tactic.Linarith
import Mathlib.Tactic.Positivity

/-!
# Rounding to Binary64

The floating point number that is closest to a rational number, in the format
with 53 bits of significand, or nothing where that is infinite. Ties go to the
even significand.

Only integers matter here. Those of up to 53 bits are floating point numbers
themselves, and no larger one is rounded into that range, so the test for a
safe integer can be made after the conversion.

## Main definitions

* `roundEven`: The closest integer.
* `ofRat`: The closest floating point number.
* `safeInteger`: The integer, when it is safe.
* `truncate`: The integer part, towards zero.

## Theorems

* `safeInteger_ofRat`: A number is safe before the conversion when it is so
  after it.
* `ofRat_of_safe`: A safe integer is a floating point number.
* `exists_int_of_large`, `truncate_ofRat_le`: A large integer stays one.
-/

namespace Binary64

open Nat

/-- The largest integer such that it and its successor are floating point
    numbers. -/
def maxSafe : Int := 2 ^ 53 - 1

/-- The closest integer, and the even one in between. -/
def roundEven (q : ℚ) : Int :=
  if q - ⌊q⌋ < 1 / 2 then ⌊q⌋
  else if q - ⌊q⌋ = 1 / 2 ∧ ⌊q⌋ % 2 = 0 then ⌊q⌋
  else ⌊q⌋ + 1

@[simp] theorem roundEven_intCast (n : Int) : roundEven n = n := by
  simp [roundEven]

theorem le_roundEven {n : Int} {q : ℚ} (h : (n : ℚ) ≤ q) : n ≤ roundEven q := by
  have hfloor := Int.le_floor.mpr h
  unfold roundEven
  split
  · exact hfloor
  · split <;> omega

/-- The place of the last bit of a significand for this number. -/
def lastPlace (q : ℚ) : Int := max (Int.log 2 q - 52) (-1074)

/-- The closest floating point number to a positive number, if all were
    finite. -/
def roundPositive (q : ℚ) : ℚ := roundEven (q / 2 ^ lastPlace q) * 2 ^ lastPlace q

/-- The closest floating point number, unless it is infinite. -/
def ofRat (q : ℚ) : Option ℚ :=
  let r := if q < 0 then -roundPositive (-q) else if q = 0 then 0 else roundPositive q
  if |r| < 2 ^ 1024 then some r else none

/-- The integer, when it is safe. -/
def safeInteger (x : Option ℚ) : Option Int :=
  x.bind fun q => if q.den = 1 ∧ |q.num| ≤ maxSafe then some q.num else none

/-- A small integer is a floating point number. -/
theorem roundPositive_of_lt {n : Nat} (hpos : 0 < n) (h : n < 2 ^ 53) :
    roundPositive (n : ℚ) = n := by
  have hlog : Int.log 2 (n : ℚ) = (log 2 n : Int) := Int.log_natCast 2 n
  have hlt : log 2 n < 53 := (log_lt_iff_lt_pow (by omega) (by omega)).mpr h
  have hplace : ∃ k : Nat, lastPlace (n : ℚ) = -(k : Int) := by
    refine ⟨52 - log 2 n, ?_⟩
    unfold lastPlace
    omega
  obtain ⟨k, hk⟩ := hplace
  have hint : (n : ℚ) / 2 ^ (-(k : Int)) = ((n * 2 ^ k : Nat) : Int) := by
    rw [zpow_neg, zpow_natCast, div_inv_eq_mul]
    push_cast
    rfl
  rw [roundPositive, hk, hint, roundEven_intCast, zpow_neg, zpow_natCast]
  push_cast
  exact mul_inv_cancel_right₀ (by positivity) _

/-- A large integer stays large. -/
theorem le_roundPositive {n : Nat} (h : 2 ^ 53 ≤ n) : (2 ^ 53 : ℚ) ≤ roundPositive (n : ℚ) := by
  have hlog : Int.log 2 (n : ℚ) = (log 2 n : Int) := Int.log_natCast 2 n
  have hle : 53 ≤ log 2 n := (le_log_iff_pow_le (by omega) (by omega)).mpr h
  obtain ⟨k, hk⟩ : ∃ k, log 2 n = 52 + k := ⟨log 2 n - 52, by omega⟩
  have hplace : lastPlace (n : ℚ) = (k : Int) := by
    unfold lastPlace
    omega
  have hpow : 2 ^ (52 + k) ≤ n := hk ▸ pow_log_le_self 2 (by omega)
  have hround : (2 : Int) ^ 52 ≤ roundEven ((n : ℚ) / 2 ^ k) := by
    refine le_roundEven ?_
    rw [le_div_iff₀ (by positivity)]
    have : ((2 ^ (52 + k) : Nat) : ℚ) ≤ n := by exact_mod_cast hpow
    rw [pow_add] at this
    exact_mod_cast this
  rw [roundPositive, hplace, zpow_natCast]
  have hcast : ((2 : ℚ) ^ 52) ≤ (roundEven ((n : ℚ) / 2 ^ k) : ℚ) := by exact_mod_cast hround
  have hone : (2 : ℚ) ≤ 2 ^ k := by
    calc (2 : ℚ) = 2 ^ 1 := (pow_one 2).symm
      _ ≤ 2 ^ k := pow_le_pow_right₀ (by norm_num) (by omega)
  calc (2 ^ 53 : ℚ) = 2 ^ 52 * 2 := by norm_num
    _ ≤ roundEven ((n : ℚ) / 2 ^ k) * 2 ^ k := mul_le_mul hcast hone (by norm_num) (by positivity)

/-- The sign does not matter for the rounding. -/
theorem ofRat_neg (q : ℚ) : ofRat (-q) = (ofRat q).map Neg.neg := by
  rcases lt_trichotomy q 0 with hneg | rfl | hpos
  · have hnot : ¬ -q < 0 := by linarith
    simp [ofRat, hneg, hneg.ne, hneg.not_gt]
  · simp [ofRat]
  · have hnot : ¬ q < 0 := hpos.not_gt
    simp [ofRat, hpos, hpos.ne', hnot]

theorem safeInteger_neg (x : Option ℚ) :
    safeInteger (x.map Neg.neg) = (safeInteger x).map Neg.neg := by
  cases x with
  | none => rfl
  | some q => simp [safeInteger, apply_ite (Option.map Neg.neg)]

theorem ofRat_natCast (n : Nat) :
    ofRat n = if |if n = 0 then 0 else roundPositive (n : ℚ)| < 2 ^ 1024 then
      some (if n = 0 then 0 else roundPositive n) else none := by
  have hround : (if (n : ℚ) < 0 then -roundPositive (-n) else if (n : ℚ) = 0 then 0
      else roundPositive n) = if n = 0 then 0 else roundPositive n := by
    rw [if_neg (by exact_mod_cast not_lt_zero n)]
    simp only [cast_eq_zero]
  rw [ofRat, hround]

theorem safeInteger_natCast (n : Nat) :
    safeInteger (ofRat n) = if n < 2 ^ 53 then some (n : Int) else none := by
  rw [ofRat_natCast]
  by_cases hlt : n < 2 ^ 53
  · -- The number is representable, and far from infinite.
    have hvalue : (if n = 0 then 0 else roundPositive (n : ℚ)) = n := by
      by_cases hzero : n = 0
      · simp [hzero]
      · rw [if_neg hzero, roundPositive_of_lt (by omega) hlt]
    have hfinite : |(n : ℚ)| < 2 ^ 1024 := by
      calc |(n : ℚ)| = n := abs_cast n
        _ < 2 ^ 53 := by exact_mod_cast hlt
        _ ≤ 2 ^ 1024 := pow_le_pow_right₀ (by norm_num) (by norm_num)
    have hsafe : (n : Int) ≤ maxSafe := by
      unfold maxSafe
      omega
    simp only [hvalue, if_pos hfinite, if_pos hlt]
    simp [safeInteger, hsafe]
  · have hlarge := le_roundPositive (not_lt.mp hlt)
    simp only [if_neg hlt, if_neg (show n ≠ 0 by omega)]
    by_cases hfinite : |roundPositive (n : ℚ)| < 2 ^ 1024
    · simp only [if_pos hfinite, safeInteger, Option.bind_some]
      refine if_neg fun hsafe => ?_
      obtain ⟨hden, hnum⟩ := hsafe
      have hq : ((roundPositive (n : ℚ)).num : ℚ) = roundPositive n :=
        (Rat.den_eq_one_iff _).mp hden
      rw [← hq] at hlarge
      have hcast : (2 ^ 53 : Int) ≤ (roundPositive (n : ℚ)).num := by exact_mod_cast hlarge
      have hle := (le_abs_self _).trans hnum
      unfold maxSafe at hle
      omega
    · simp [safeInteger, if_neg hfinite]

/-- The integer part, towards zero. -/
def truncate (q : ℚ) : Int := q.num.tdiv q.den

@[simp] theorem truncate_intCast (n : Int) : truncate n = n := by
  simp [truncate]

/-- A number is safe before the conversion when it is so after it. -/
theorem safeInteger_ofRat (n : Int) :
    safeInteger (ofRat n) = if |n| ≤ maxSafe then some n else none := by
  have hbound (k : Nat) : |(k : Int)| ≤ maxSafe ↔ k < 2 ^ 53 := by
    rw [abs_cast]
    unfold maxSafe
    omega
  rcases n.eq_nat_or_neg with ⟨k, rfl | rfl⟩
  · simp only [Int.cast_natCast, safeInteger_natCast, hbound]
  · simp only [Int.cast_neg, Int.cast_natCast, ofRat_neg, safeInteger_neg, safeInteger_natCast,
      abs_neg, hbound]
    by_cases hk : k < 2 ^ 53
    · rw [if_pos hk, if_pos hk]
      rfl
    · rw [if_neg hk, if_neg hk]
      rfl

/-- A large integer is rounded to a large integer. -/
theorem exists_int_of_large {n : Int} (h : maxSafe < |n|) {q : ℚ} (hq : ofRat n = some q) :
    ∃ m : Int, q = m ∧ (0 < n → 2 ^ 53 ≤ m) ∧ (n < 0 → m ≤ -2 ^ 53) := by
  -- For a positive number first.
  have hnat (k : Nat) (hk : 2 ^ 53 ≤ k) (r : ℚ) (hr : ofRat k = some r) :
      ∃ m : Int, r = m ∧ 2 ^ 53 ≤ m := by
    rw [ofRat_natCast, if_neg (show k ≠ 0 by omega)] at hr
    split at hr
    · cases hr
      have hlog : Int.log 2 (k : ℚ) = (log 2 k : Int) := Int.log_natCast 2 k
      have hle : 53 ≤ log 2 k := (le_log_iff_pow_le (by omega) (by omega)).mpr hk
      obtain ⟨j, hj⟩ : ∃ j : Nat, lastPlace (k : ℚ) = j :=
        ⟨log 2 k - 52, by unfold lastPlace; omega⟩
      have hvalue : roundPositive (k : ℚ) =
          ((roundEven ((k : ℚ) / 2 ^ lastPlace (k : ℚ)) * 2 ^ j : Int) : ℚ) := by
        rw [roundPositive, hj, zpow_natCast]
        push_cast
        rfl
      refine ⟨_, hvalue, ?_⟩
      have hlarge := le_roundPositive hk
      rw [hvalue] at hlarge
      exact_mod_cast hlarge
    · cases hr
  rcases n.eq_nat_or_neg with ⟨k, rfl | rfl⟩
  · rw [abs_cast] at h
    obtain ⟨m, rfl, hm⟩ := hnat k (by unfold maxSafe at h; omega) q (by simpa using hq)
    exact ⟨m, rfl, fun _ => hm, fun hneg => absurd hneg (by omega)⟩
  · rw [abs_neg, abs_cast] at h
    rw [Int.cast_neg, Int.cast_natCast, ofRat_neg] at hq
    obtain ⟨r, hr, rfl⟩ := Option.map_eq_some_iff.mp hq
    obtain ⟨m, rfl, hm⟩ := hnat k (by unfold maxSafe at h; omega) r hr
    refine ⟨-m, by push_cast; rfl, fun hpos => absurd hpos (by omega), fun _ => by omega⟩

/-- A large negative number stays one. -/
theorem truncate_ofRat_le {n : Int} (h : n < -maxSafe) {q : ℚ} (hq : ofRat n = some q) :
    truncate q ≤ -2 ^ 53 := by
  have hpos : 0 < maxSafe := by decide
  have habs : maxSafe < |n| := lt_abs.mpr (.inr (by omega))
  obtain ⟨m, rfl, _, hm⟩ := exists_int_of_large habs hq
  rw [truncate_intCast]
  exact hm (by omega)

/-- A safe integer is a floating point number. -/
theorem ofRat_of_safe {n : Int} (h : |n| ≤ maxSafe) : ofRat n = some (n : ℚ) := by
  have hround := safeInteger_ofRat n
  rw [if_pos h] at hround
  obtain ⟨q, hq, hn⟩ := Option.bind_eq_some_iff.mp hround
  split at hn
  · next hint =>
    have hcast : (q.num : ℚ) = q := (Rat.den_eq_one_iff q).mp hint.1
    rw [hq, ← hcast, Option.some.inj hn]
  · cases hn

end Binary64
