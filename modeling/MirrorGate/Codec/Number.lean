import MirrorGate.Lib.Binary64
import MirrorGate.Lib.Decimal

/-!
# Numbers on the Wire

Every implementation of the protocols reads JSON numbers on its own, in order
not to lose digits in a floating point number. A numeral may be written with
any number of digits and any exponent, and it is to be accepted when its exact
value is an integer that all languages can represent.

This module has what the readers share. Most of them shift the point through
the digits and never compute with a long number. What such a reader accepts
depends on the digits and the place of the point alone, and so does the
question whether it is right.

## Main definitions

* `Exact`: A reader is right about a numeral.
* `shiftDigits`, `boundDigits`: The point is shifted, and the size is checked.
* `cappedExponent`: An exponent that is not let grow.
* `settled`: What a reader makes of digits and a place for the point.
* `Reads`: A reader does just that.
* `decimal`, `safeDecimal`: The exact arithmetic of the supervisor.
* `nodeScale`, `nodeSettle`: The floating point arithmetic of the Node SDK.

## Theorems

* `settled_eq_some_iff`: It is the exact value.
* `Reads.exact_iff`: When a reader that shifts the point is right.
* `cappedExponent_eq`: The exponent, up to the cap.
* `safeDecimal_exact`: Exact arithmetic is right, except about zero.
* `nodeSettle_toOption`: Floating point arithmetic does no harm.
-/

namespace MirrorGate.Codec

open Decimal

/-- The largest integer that all languages represent, and its negative. -/
def maxSafeInteger : Nat := 9007199254740991

/-- The value is an integer that all languages represent. -/
def Safe (q : ℚ) : Prop := ∃ n : Int, q = n ∧ |n| ≤ maxSafeInteger

/-- What may follow a number in a frame. -/
def followers : List Char := [' ', '\t', '\r', '\n', ',', ']', '}']

/-- The text after a number. -/
def Followed (rest : List Char) : Prop := ∀ c ∈ rest.head?, c ∈ followers

instance (rest : List Char) : Decidable (Followed rest) :=
  decidable_of_iff (rest.head?.all (· ∈ followers) = true)
    (by cases h : rest.head? <;> simp [Followed, h])

/-- The reader is right about the numeral: it accepts it when its exact value is
    safe, yields that value and goes on behind it. -/
def Exact (t : Numeral) (rest : List Char) (result : Except String (Int × List Char)) : Prop :=
  ∀ n rest', result.toOption = some (n, rest') ↔
    rest' = rest ∧ t.value = n ∧ |n| ≤ maxSafeInteger

theorem Followed.stops {rest : List Char} (h : Followed rest) : Stops rest := by
  intro c hc
  have hmem := h c hc
  simp only [followers, List.mem_cons, List.not_mem_nil, or_false] at hmem
  rcases hmem with rfl | rfl | rfl | rfl | rfl | rfl | rfl <;> decide

/-! ### Shifting the point -/

/-- The point is shifted, or the number is refused with one of the messages. -/
def shiftDigits (fractional large : String) (digits : List Char) (scale : Int) :
    Except String (List Char) :=
  match shift 16 digits scale with
  | some result => .ok result
  | none => .error (if scale < 0 then fractional else large)

/-- The size of an integer is checked, its length first. -/
def boundDigits (large : String) (digits : List Char) : Except String Nat :=
  if 16 < digits.length then .error large
  else if maxSafeInteger < number digits then .error large
  else .ok (number digits)

/-- What a reader that shifts the point makes of digits that begin with no
    zero. -/
def settled (digits : List Char) (scale : Int) : Option Nat :=
  (shift 16 digits scale).bind fun result =>
    if number result ≤ maxSafeInteger then some (number result) else none

section Settled

variable {digits : List Char} {scale : Int}

/-- It is the exact value. -/
theorem settled_eq_some_iff (h : Significant digits) {n : Nat} :
    settled digits scale = some n ↔
      (number digits : ℚ) * 10 ^ scale = n ∧ n ≤ maxSafeInteger := by
  unfold settled
  constructor
  · intro hsettled
    obtain ⟨result, hshift, hbound⟩ := Option.bind_eq_some_iff.mp hsettled
    split at hbound
    · next hle =>
      cases hbound
      exact ⟨shift_eq_some hshift h.all, hle⟩
    · cases hbound
  · rintro ⟨hvalue, hle⟩
    have hlt : n < 10 ^ 16 := by
      unfold maxSafeInteger at hle
      omega
    obtain ⟨result, hshift⟩ := exists_shift h hlt hvalue
    have hresult : number result = n := by
      exact_mod_cast (shift_eq_some hshift h.all).symm.trans hvalue
    rw [hshift, Option.bind_some, hresult, if_pos hle]

/-- The point was not far away. -/
theorem scale_of_settled {n : Nat} (h : settled digits scale = some n) :
    -(digits.length : Int) ≤ scale ∧ scale ≤ 16 := by
  obtain ⟨result, hshift, _⟩ := Option.bind_eq_some_iff.mp h
  unfold shift at hshift
  split at hshift
  · next hneg =>
    split at hshift
    · cases hshift
    · next hguard =>
      have := (not_or.mp hguard).1
      omega
  · next hneg =>
    split at hshift
    · cases hshift
    · next hfits => omega

theorem settled_eq_none_of_far (h : scale < -(digits.length : Int) ∨ 16 < scale) :
    settled digits scale = none := by
  rcases hsettled : settled digits scale with _ | n
  · rfl
  · have := scale_of_settled hsettled
    omega

/-- The two checks together. -/
theorem shift_bound (fractional large large' : String) (h : Significant digits) :
    (shiftDigits fractional large digits scale >>= boundDigits large').toOption =
      settled digits scale := by
  unfold shiftDigits settled
  split
  · next result hshift =>
    have hresult := h.shift hshift
    simp only [bind, Except.bind, boundDigits, hshift, Option.bind]
    by_cases hle : number result ≤ maxSafeInteger
    · -- A number of this size has no more than 16 digits.
      have hlength : result.length ≤ 16 := by
        refine hresult.length_le (lt_of_le_of_lt hle ?_)
        unfold maxSafeInteger
        omega
      rw [if_neg (by omega), if_neg (by omega), if_pos hle]
      rfl
    · rw [if_neg hle]
      split
      · rfl
      · rw [if_pos (by omega)]
        rfl
  · next hshift =>
    rw [hshift]
    rfl

/-- With two places for the point there are two values. -/
theorem settled_injective {scale' : Int} (h : Significant digits) {n : Nat}
    (hn : settled digits scale = some n) (hn' : settled digits scale' = some n) :
    scale = scale' := by
  have hvalue := ((settled_eq_some_iff h).mp hn).1
  have hvalue' := ((settled_eq_some_iff h).mp hn').1
  have hpos : (number digits : ℚ) ≠ 0 := by
    have : 0 < number digits := lt_of_lt_of_le (by positivity) h.pow_le
    exact_mod_cast this.ne'
  exact zpow_right_injective₀ (by norm_num) (by norm_num)
    (mul_left_cancel₀ hpos (hvalue.trans hvalue'.symm))

end Settled

/-! ### When a reader is right -/

section Readers

variable {t : Numeral} {rest : List Char} {result : Except String (Int × List Char)}

theorem Numeral.significant_of_ne (hne : significant t.digits ≠ []) :
    Significant (significant t.digits) :=
  significant_of_ne_nil t.digits_digits hne

theorem value_eq (t : Numeral) (e : Int) : t.atExponent e =
    (if t.negative then -1 else 1) *
      ((number (significant t.digits) : ℚ) * 10 ^ (e - t.fraction.length)) := by
  rw [number_significant]
  rfl

/-- A sign changes nothing about the size. -/
theorem signed_iff (hne : significant t.digits ≠ []) (e n : Int) :
    t.atExponent e = n ∧ |n| ≤ maxSafeInteger ↔
      ∃ m : Nat, settled (significant t.digits) (e - t.fraction.length) = some m ∧
        t.signed m = n := by
  have hD := Numeral.significant_of_ne hne
  rw [value_eq]
  constructor
  · rintro ⟨hvalue, hle⟩
    -- The value of the digits is not negative, so the sign of the number is the sign before it.
    have hpos : (0 : ℚ) ≤ (number (significant t.digits) : ℚ) *
        10 ^ (e - t.fraction.length : Int) :=
      mul_nonneg (Nat.cast_nonneg _) (zpow_nonneg (by norm_num) _)
    cases hneg : t.negative with
    | false =>
      simp only [hneg, Bool.false_eq_true, if_false, one_mul] at hvalue
      have hn : 0 ≤ n := by exact_mod_cast hvalue ▸ hpos
      lift n to Nat using hn
      rw [Nat.abs_cast] at hle
      refine ⟨n, (settled_eq_some_iff hD).mpr ⟨by exact_mod_cast hvalue, by omega⟩, ?_⟩
      simp [Parts.signed, hneg]
    | true =>
      simp only [hneg, if_true, neg_one_mul] at hvalue
      obtain ⟨m, rfl⟩ : ∃ m : Int, n = -m := ⟨-n, (neg_neg n).symm⟩
      have hvalue' : (number (significant t.digits) : ℚ) *
          10 ^ (e - t.fraction.length : Int) = m := by
        have := congrArg Neg.neg hvalue
        simpa using this
      have hm : 0 ≤ m := by exact_mod_cast hvalue' ▸ hpos
      lift m to Nat using hm
      rw [abs_neg, Nat.abs_cast] at hle
      refine ⟨m, (settled_eq_some_iff hD).mpr ⟨by exact_mod_cast hvalue', by omega⟩, ?_⟩
      simp [Parts.signed, hneg]
  · rintro ⟨m, hm, rfl⟩
    obtain ⟨hvalue, hle⟩ := (settled_eq_some_iff hD).mp hm
    rw [hvalue]
    have hcast : (m : Int) ≤ maxSafeInteger := by exact_mod_cast hle
    cases hneg : t.negative <;> simp [Parts.signed, hneg, hcast]

theorem safe_atExponent_iff (hne : significant t.digits ≠ []) (e : Int) :
    Safe (t.atExponent e) ↔
      settled (significant t.digits) (e - t.fraction.length) ≠ none := by
  unfold Safe
  simp only [signed_iff hne, Option.ne_none_iff_exists']
  constructor
  · rintro ⟨n, m, hm, _⟩
    exact ⟨m, hm⟩
  · rintro ⟨m, hm⟩
    exact ⟨_, m, hm, rfl⟩

/-- The reader shifts the point to this place, and does nothing else. -/
def Reads (t : Numeral) (rest : List Char) (scale : Int)
    (result : Except String (Int × List Char)) : Prop :=
  result.toOption =
    (settled (significant t.digits) scale).map fun n : Nat => (t.signed n, rest)

theorem signed_injective (t : Numeral) {m n : Nat} (h : t.signed m = t.signed n) : m = n := by
  cases hneg : t.negative <;> simp only [Parts.signed, hneg] at h <;> simpa using h

/-- A reader that shifts the point is right when it finds what is there. -/
theorem Reads.exact_iff {scale : Int} (hne : significant t.digits ≠ [])
    (h : Reads t rest scale result) : Exact t rest result ↔
      settled (significant t.digits) scale = settled (significant t.digits) t.scale := by
  have hexact : Exact t rest result ↔ ∀ n rest', result.toOption = some (n, rest') ↔
      rest' = rest ∧ ∃ m : Nat, settled (significant t.digits) t.scale = some m ∧
        t.signed m = n := by
    refine forall_congr' fun n => forall_congr' fun rest' => ?_
    rw [Parts.value, signed_iff hne t.exponentValue n]
    rfl
  rw [hexact, h]
  constructor
  · intro hall
    -- Whatever one of them finds, the other finds too.
    refine Option.ext fun m => ?_
    have hm := hall (t.signed m) rest
    simp only [Option.map_eq_some_iff, Prod.mk.injEq, true_and] at hm
    constructor
    · intro hsome
      obtain ⟨m', hm', heq⟩ := hm.mp ⟨m, hsome, rfl, trivial⟩
      rwa [signed_injective t heq] at hm'
    · intro hsome
      obtain ⟨m', hm', heq, _⟩ := hm.mpr ⟨m, hsome, rfl⟩
      rwa [signed_injective t heq] at hm'
  · intro heq n rest'
    rw [heq]
    simp only [Option.map_eq_some_iff, Prod.mk.injEq]
    constructor
    · rintro ⟨m, hm, rfl, rfl⟩
      exact ⟨rfl, m, hm, rfl⟩
    · rintro ⟨rfl, m, hm, rfl⟩
      exact ⟨m, hm, rfl, rfl⟩

/-- A reader that refuses is right when there is nothing to find. -/
theorem exact_of_refuses (hne : significant t.digits ≠ []) (h : result.toOption = none) :
    Exact t rest result ↔ settled (significant t.digits) t.scale = none := by
  unfold Exact
  simp only [h, reduceCtorEq, false_iff, not_and]
  constructor
  · intro hnone
    by_contra hsome
    obtain ⟨n, hn⟩ := (safe_atExponent_iff hne t.exponentValue).mpr hsome
    exact hnone n rest rfl hn.1 hn.2
  · intro hnone n rest' _ hvalue hle
    exact (safe_atExponent_iff hne t.exponentValue).mp ⟨n, hvalue, hle⟩ hnone

/-- Zero is always safe. -/
theorem exact_of_zero (hzero : significant t.digits = []) :
    Exact t rest result ↔ result.toOption = some (0, rest) := by
  have hvalue : t.value = 0 := by
    rw [Parts.value, value_eq, hzero]
    simp [number]
  unfold Exact
  rw [hvalue]
  constructor
  · intro hall
    refine (hall 0 rest).mpr ⟨rfl, by simp, ?_⟩
    rw [abs_zero]
    exact Int.natCast_nonneg _
  · intro hsome n rest'
    rw [hsome]
    simp only [Option.some.injEq, Prod.mk.injEq]
    constructor
    · rintro ⟨rfl, rfl⟩
      exact ⟨rfl, by simp, by rw [abs_zero]; exact Int.natCast_nonneg _⟩
    · rintro ⟨rfl, hn, _⟩
      exact ⟨by exact_mod_cast hn, rfl⟩

/-- There are no more digits than characters. -/
theorem length_significant_le (t : Numeral) (rest : List Char) :
    (significant t.digits).length ≤ (t.text ++ rest).length ∧
      t.fraction.length ≤ (t.text ++ rest).length := by
  have htext := t.length_fraction_le
  have hsublist : (significant t.digits).length ≤ t.digits.length :=
    (List.dropWhile_sublist _).length_le
  simp only [Parts.digits, List.length_append] at hsublist ⊢
  omega

end Readers

/-! ### Exponents -/

/-- A signed 64-bit integer does not grow beyond its limit. -/
def saturate (n : Nat) : Nat := min n (2 ^ 63 - 1)

/-- The exponent, as long as it is below the cap. -/
def cappedExponent (cap : Nat) (digits : List Char) : Nat :=
  digits.foldl (fun e c => min (saturate (saturate (e * 10) + digit c)) cap) 0

def cappedValue (cap : Nat) (e : Exponent) : Int :=
  if e.sign = some true then -(cappedExponent cap e.digits : Int) else cappedExponent cap e.digits

/-- An exponent whose magnitude is cut off. -/
def clamp (cap : Nat) (e : Int) : Int := max (-cap) (min cap e)

/-- Once an exponent has reached the cap, it stays there. -/
theorem foldl_capped {cap : Nat} {step : Nat → Char → Nat}
    (hstep : ∀ e c, e ≤ cap → step e c = min (e * 10 + digit c) cap) (digits : List Char) :
    digits.foldl step 0 = min (number digits) cap := by
  have hfold (e : Nat) : digits.foldl step (min e cap) =
      min (digits.foldl (fun n c => n * 10 + digit c) e) cap := by
    induction digits generalizing e with
    | nil => rfl
    | cons c digits ih =>
      rw [List.foldl_cons, List.foldl_cons, ← ih, hstep _ c (by omega)]
      congr 1
      omega
  have := hfold 0
  rwa [Nat.zero_min] at this

theorem cappedExponent_eq {cap : Nat} (hcap : cap < 2 ^ 63) (digits : List Char) :
    cappedExponent cap digits = min (number digits) cap := by
  refine foldl_capped (fun e c he => ?_) digits
  unfold saturate
  omega

theorem cappedValue_eq {cap : Nat} (hcap : cap < 2 ^ 63) (e : Exponent) :
    cappedValue cap e = clamp cap e.value := by
  unfold cappedValue clamp Exponent.value
  rw [cappedExponent_eq hcap]
  split <;> omega

/-! ### Canonical texts -/

/-- The integer that a canonical text stands for. -/
def readInteger : List Char → Int
  | '-' :: digits => -(number digits : Int)
  | digits => number digits

/-- A token that is taken to end at a delimiter ends where the numeral does. -/
theorem token_split {delimiters : List Char} (t : Numeral) {rest : List Char}
    (hrest : Followed rest)
    (hfree : (delimiters.all fun d => d.isDigit = false ∧ d ∉ ['-', '+', '.', 'e', 'E']) = true)
    (hall : (followers.all fun d => d ∈ delimiters) = true) :
    (t.text ++ rest).takeWhile (fun c => !delimiters.contains c) = t.text ∧
      (t.text ++ rest).dropWhile (fun c => !delimiters.contains c) = rest := by
  simp only [List.all_eq_true, decide_eq_true_eq] at hfree hall
  have htext (c : Char) (hc : c ∈ t.text) : (!delimiters.contains c) = true := by
    simp only [List.contains_eq_mem, Bool.not_eq_true', decide_eq_false_iff_not]
    intro hmem
    rcases t.mem_text hc with hdigit | hsign
    · cases hdigit.symm.trans (hfree c hmem).1
    · exact (hfree c hmem).2 hsign
  rw [List.takeWhile_append_of_pos htext, List.dropWhile_append_of_pos htext]
  cases rest with
  | nil => simp
  | cons c rest => simp [hall c (hrest c rfl)]

theorem isDigit_ne {c d : Char} (h : c.isDigit = true) (hd : d.isDigit = false) : c ≠ d := by
  rintro rfl
  cases h.symm.trans hd

theorem readInteger_digits {digits : List Char} (h : Significant digits) :
    readInteger digits = number digits := by
  obtain ⟨c, cs, rfl, _⟩ := h.start
  have hne : c ≠ '-' := isDigit_ne (h.all c List.mem_cons_self) (by decide)
  simp [readInteger, hne]

theorem readInteger_signed (t : Numeral) {digits : List Char} (h : Significant digits) :
    readInteger (if t.negative then '-' :: digits else digits) = t.signed (number digits) := by
  cases hneg : t.negative with
  | false => simpa [Parts.signed, hneg] using readInteger_digits h
  | true => simp [Parts.signed, hneg, readInteger]

/-- The two checks, and what comes of them. -/
theorem bound_toOption {α : Type} (fractional large : String) {digits : List Char}
    (h : Significant digits) (scale : Int) (f : List Char → α) (g : Nat → α)
    (hfg : ∀ integer, Significant integer → f integer = g (number integer)) :
    (do
      let integer ← shiftDigits fractional large digits scale
      let _ ← boundDigits large integer
      pure (f integer) : Except String α).toOption = (settled digits scale).map g := by
  rw [← shift_bound fractional large large h]
  unfold shiftDigits
  split
  · next integer hshift =>
    simp only [bind, Except.bind, pure, Except.pure, hfg integer (h.shift hshift)]
    cases hbound : boundDigits large integer with
    | error message => rfl
    | ok n =>
      have hn : n = number integer := by
        unfold boundDigits at hbound
        split at hbound
        · cases hbound
        · split at hbound <;> cases hbound
          rfl
      rw [hn]
      rfl
  · rfl

/-! ### Exact arithmetic -/

section Decimals

/-- The limits of `decimal.Decimal`. -/
def maxPrecision : Nat := 999999999999999999

def maxExponent : Int := 999999999999999999

def minExponent : Int := -1999999999999999997

/-- `Decimal(token)`. It is exact or raises an exception, and only its value
    matters. A zero has one digit. -/
def decimal (p : Parts) : Option ℚ :=
  let digits := max 1 (significant p.digits).length
  if maxPrecision < digits ∨ maxExponent < p.scale + digits - 1 ∨ p.scale < minExponent then none
  else some p.value

/-- The number as an integer, if it is a safe one. -/
def safeDecimal (raised refused : String) (p : Parts) : Except String Int :=
  match decimal p with
  | none => .error raised
  | some value =>
    if value ≠ Binary64.roundEven value ∨
        ¬ (-(maxSafeInteger : ℚ) ≤ value ∧ value ≤ maxSafeInteger) then .error refused
    else .ok (Binary64.truncate value)

variable {t : Numeral} {rest : List Char} (raised refused : String)

theorem safeDecimal_ok_iff {value : ℚ} (h : decimal t.toParts = some value) (n : Int) :
    safeDecimal raised refused t.toParts = .ok n ↔ value = n ∧ |n| ≤ maxSafeInteger := by
  have hrange (n : Int) : (-(maxSafeInteger : ℚ) ≤ n ∧ (n : ℚ) ≤ maxSafeInteger) ↔
      |n| ≤ maxSafeInteger := by
    rw [abs_le]
    exact_mod_cast Iff.rfl
  simp only [safeDecimal, h]
  constructor
  · intro hok
    split at hok
    · cases hok
    · next hguard =>
      obtain ⟨hround, hsafe⟩ := not_or.mp hguard
      rw [not_not] at hround hsafe
      rw [hround, Binary64.truncate_intCast] at hok
      cases hok
      rw [hround] at hsafe
      exact ⟨hround, (hrange _).mp hsafe⟩
  · rintro ⟨rfl, hle⟩
    rw [Binary64.roundEven_intCast, Binary64.truncate_intCast, if_neg]
    rw [not_or, not_not, not_not]
    exact ⟨rfl, (hrange n).mpr hle⟩

theorem safeDecimal_some {value : ℚ} (h : decimal t.toParts = some value) :
    Exact t rest ((safeDecimal raised refused t.toParts).map (·, rest)) := by
  have hvalue : t.value = value := by
    unfold decimal at h
    dsimp only at h
    split at h
    · cases h
    · exact Option.some.inj h
  intro n rest'
  rw [hvalue, ← safeDecimal_ok_iff raised refused h n]
  cases safeDecimal raised refused t.toParts with
  | error message => simp [Except.map, Except.toOption]
  | ok m =>
    simp only [Except.map, Except.toOption, Option.some.injEq, Prod.mk.injEq, Except.ok.injEq]
    constructor
    · rintro ⟨rfl, rfl⟩
      exact ⟨rfl, rfl⟩
    · rintro ⟨rfl, rfl⟩
      exact ⟨rfl, rfl⟩

/-- Exact arithmetic is right about every number but zero, as long as the text
    is not of astronomic length. -/
theorem safeDecimal_exact (hne : significant t.digits ≠ [])
    (hlength : (t.text ++ rest).length ≤ 1048576) :
    Exact t rest ((safeDecimal raised refused t.toParts).map (·, rest)) := by
  cases hdecimal : decimal t.toParts with
  | some value => exact safeDecimal_some raised refused hdecimal
  | none =>
    have hrefuses : ((safeDecimal raised refused t.toParts).map (·, rest)).toOption = none := by
      simp only [safeDecimal, hdecimal]
      rfl
    refine (exact_of_refuses hne hrefuses).mpr (settled_eq_none_of_far ?_)
    obtain ⟨hdigits, _⟩ := length_significant_le t rest
    unfold decimal at hdecimal
    dsimp only at hdecimal
    split at hdecimal
    · next hrange =>
      unfold maxPrecision maxExponent minExponent at hrange
      omega
    · cases hdecimal

/-- The exponent of a zero must not be astronomic either. -/
theorem safeDecimal_zero (hzero : significant t.digits = []) :
    Exact t rest ((safeDecimal raised refused t.toParts).map (·, rest)) ↔
      minExponent ≤ t.scale ∧ t.scale ≤ maxExponent := by
  cases hdecimal : decimal t.toParts with
  | some value =>
    refine iff_of_true (safeDecimal_some raised refused hdecimal) ?_
    unfold decimal at hdecimal
    rw [hzero] at hdecimal
    dsimp only at hdecimal
    split at hdecimal
    · cases hdecimal
    · next hrange =>
      simp only [List.length_nil] at hrange
      omega
  | none =>
    refine iff_of_false ?_ ?_
    · rw [exact_of_zero hzero]
      simp [safeDecimal, hdecimal, Except.map, Except.toOption]
    · unfold decimal at hdecimal
      rw [hzero] at hdecimal
      dsimp only at hdecimal
      split at hdecimal
      · next hrange =>
        simp only [List.length_nil] at hrange
        unfold maxPrecision at hrange
        omega
      · cases hdecimal

end Decimals

/-! ### Floating point arithmetic -/

/-- An exponent less the length of a fraction, as a floating point number. -/
def nodeScale (exponent : ℚ) (fraction : Nat) : Option ℚ := Binary64.ofRat (exponent - fraction)

/-- The point is shifted, and the digits are converted. -/
def nodeSettle (p : Parts) (digits : List Char) (scale : Int) : Except String Int := do
  let shifted ← shiftDigits "Fractional JSON number" "Unsafe JSON number" digits scale
  match Binary64.safeInteger (Binary64.ofRat (p.signed (number shifted))) with
  | none => .error "Unsafe JSON number"
  | some n => .ok n

theorem toOption_map {α β : Type} (f : α → β) (result : Except String α) :
    (result.map f).toOption = result.toOption.map f := by
  cases result <;> rfl

/-- The conversion does no harm. -/
theorem nodeSettle_toOption (t : Numeral) (digits : List Char) (scale : Int) :
    (nodeSettle t.toParts digits scale).toOption =
      (settled digits scale).map fun n : Nat => t.signed n := by
  have habs (n : Nat) : |t.signed n| ≤ Binary64.maxSafe ↔ n ≤ maxSafeInteger := by
    have hsize : |t.signed n| = n := by
      cases hneg : t.negative <;> simp [Parts.signed, hneg]
    rw [hsize]
    unfold Binary64.maxSafe maxSafeInteger
    omega
  unfold nodeSettle shiftDigits settled
  cases shift 16 digits scale with
  | none => rfl
  | some shifted =>
    simp only [bind, Except.bind, Binary64.safeInteger_ofRat, habs, Option.bind]
    by_cases hle : number shifted ≤ maxSafeInteger
    · rw [if_pos hle, if_pos hle]
      rfl
    · rw [if_neg hle, if_neg hle]
      rfl

/-- So a reader that computes like this shifts the point. -/
theorem nodeSettle_reads (t : Numeral) (rest : List Char) (scale : Int) :
    Reads t rest scale ((nodeSettle t.toParts (significant t.digits) scale).map (·, rest)) := by
  rw [Reads, toOption_map, nodeSettle_toOption, Option.map_map]
  rfl

end MirrorGate.Codec
