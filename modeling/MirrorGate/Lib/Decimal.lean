import Mathlib.Algebra.Order.Field.Rat
import Mathlib.Data.List.TakeWhile
import Mathlib.Data.Rat.Cast.Order
import Mathlib.Tactic.FieldSimp
import Mathlib.Tactic.Linarith
import Mathlib.Tactic.NormNum
import Mathlib.Tactic.Positivity
import Mathlib.Tactic.Ring

/-!
# Decimal Numerals

The numerals of JSON, how they are read, and what they mean. A numeral has
digits before and after the point and an exponent, and any of these may be as
long as the text. Its value is a rational number.

Whoever wants an integer without doing arithmetic on long numbers shifts the
point instead: zeros are taken off the end of the digits, or put there. What
this module shows of it is that nothing is lost, provided that the digits do
not begin with a zero.

## Main definitions

* `number`: The number that digits stand for.
* `Numeral`: A numeral, with its text and its value.
* `scan`, `recognise`: Two ways to read one, by hand and by an expression.
* `shift`: The digits, with the point shifted.

## Theorems

* `number_append`, `number_lt`, `pow_le_number`: The size of a number.
* `scan_text`, `recognise_text`: A numeral is read back.
* `shift_eq_some`, `exists_shift`: Shifting keeps the value, and is possible
  whenever that is a small integer.
-/

namespace Decimal

open List

/-! ### Digits -/

def digit (c : Char) : Nat := c.toNat - 48

/-- The number that digits stand for. -/
def number (digits : List Char) : Nat := digits.foldl (fun n c => n * 10 + digit c) 0

/-- All characters are digits. -/
def Digits (digits : List Char) : Prop := ∀ c ∈ digits, c.isDigit = true

instance (digits : List Char) : Decidable (Digits digits) :=
  decidable_of_iff (digits.all Char.isDigit = true) List.all_eq_true

theorem digits_nil : Digits [] := by decide

theorem digit_lt {c : Char} (h : c.isDigit = true) : digit c < 10 := by
  simp only [Char.isDigit, Bool.and_eq_true, decide_eq_true_eq, UInt32.le_iff_toNat_le] at h
  have hle : c.toNat ≤ 57 := h.2
  unfold digit
  omega

theorem digit_pos {c : Char} (h : c.isDigit = true) (hne : c ≠ '0') : 0 < digit c := by
  simp only [Char.isDigit, Bool.and_eq_true, decide_eq_true_eq, UInt32.le_iff_toNat_le] at h
  have hge : 48 ≤ c.toNat := h.1
  have hne' : c.toNat ≠ 48 := fun heq => hne (Char.toNat_inj.mp heq)
  unfold digit
  omega

theorem foldl_digit (digits : List Char) (n : Nat) :
    digits.foldl (fun n c => n * 10 + digit c) n = n * 10 ^ digits.length + number digits := by
  unfold number
  induction digits generalizing n with
  | nil => simp
  | cons c digits ih =>
    simp only [foldl_cons, length_cons]
    rw [ih, ih (0 * 10 + digit c)]
    ring

theorem number_append (xs ys : List Char) :
    number (xs ++ ys) = number xs * 10 ^ ys.length + number ys := by
  rw [number, foldl_append, foldl_digit]
  rfl

theorem number_cons (c : Char) (cs : List Char) :
    number (c :: cs) = digit c * 10 ^ cs.length + number cs := by
  rw [show c :: cs = [c] ++ cs from rfl, number_append]
  simp [number]

theorem number_zeros (n : Nat) : number (List.replicate n '0') = 0 := by
  induction n with
  | zero => rfl
  | succ n ih =>
    rw [replicate_succ, number_cons, ih]
    simp [digit]

theorem number_lt {digits : List Char} (h : Digits digits) :
    number digits < 10 ^ digits.length := by
  induction digits with
  | nil => simp [number]
  | cons c digits ih =>
    have hc := digit_lt (h c mem_cons_self)
    have hrest := ih fun d hd => h d (mem_cons_of_mem c hd)
    rw [number_cons, length_cons, pow_succ]
    nlinarith

/-- A number whose first digit is not zero is as long as its digits. -/
theorem pow_le_number {c : Char} {cs : List Char} (h : c.isDigit = true) (hne : c ≠ '0') :
    10 ^ cs.length ≤ number (c :: cs) := by
  have hpos := digit_pos h hne
  rw [number_cons]
  have hpow : 0 < 10 ^ cs.length := by positivity
  nlinarith

theorem number_eq_zero_iff {digits : List Char} (h : Digits digits) :
    number digits = 0 ↔ ∀ c ∈ digits, c = '0' := by
  induction digits with
  | nil => simp [number]
  | cons c digits ih =>
    have hrest := ih fun d hd => h d (mem_cons_of_mem c hd)
    have hpow : 0 < 10 ^ digits.length := by positivity
    rw [number_cons, forall_mem_cons, ← hrest]
    by_cases hc : c = '0'
    · simp [hc, digit]
    · have hpos := digit_pos (h c mem_cons_self) hc
      constructor
      · intro hzero
        have : 0 < digit c * 10 ^ digits.length := by positivity
        omega
      · intro hzero
        exact absurd hzero.1 hc

/-- The digits from the first one that is not zero. -/
def significant (digits : List Char) : List Char := digits.dropWhile (· = '0')

theorem number_significant (digits : List Char) : number (significant digits) = number digits := by
  unfold significant
  induction digits with
  | nil => rfl
  | cons c digits ih =>
    rw [dropWhile_cons]
    split
    · next hc =>
      rw [ih, number_cons, of_decide_eq_true hc]
      simp [digit]
    · rfl

theorem Digits.significant {digits : List Char} (h : Digits digits) :
    Digits (significant digits) :=
  fun c hc => h c ((dropWhile_sublist _).subset hc)

theorem significant_eq_nil_iff {digits : List Char} (h : Digits digits) :
    Decimal.significant digits = [] ↔ number digits = 0 := by
  rw [Decimal.significant, dropWhile_eq_nil_iff, number_eq_zero_iff h]
  simp

/-- Digits that stand for a number in the only way. -/
structure Significant (digits : List Char) : Prop where
  all : Digits digits
  start : ∃ c cs, digits = c :: cs ∧ c ≠ '0'

theorem significant_of_ne_nil {digits : List Char} (h : Digits digits)
    (hne : significant digits ≠ []) : Significant (significant digits) := by
  refine ⟨h.significant, ?_⟩
  match hcs : significant digits with
  | [] => exact absurd hcs hne
  | c :: cs =>
    refine ⟨c, cs, rfl, fun hc => ?_⟩
    have hhead := head?_dropWhile_not (· = '0') digits
    rw [significant] at hcs
    rw [hcs] at hhead
    simp [hc] at hhead

theorem Significant.pow_le {digits : List Char} (h : Significant digits) :
    10 ^ (digits.length - 1) ≤ number digits := by
  obtain ⟨c, cs, rfl, hc⟩ := h.start
  exact pow_le_number (h.all c mem_cons_self) hc

theorem Significant.length_pos {digits : List Char} (h : Significant digits) :
    0 < digits.length := by
  obtain ⟨c, cs, rfl, _⟩ := h.start
  exact Nat.succ_pos _

/-- A small number has few digits. -/
theorem Significant.length_le {digits : List Char} (h : Significant digits) {width : Nat}
    (hlt : number digits < 10 ^ width) : digits.length ≤ width := by
  have hpow := h.pow_le.trans_lt hlt
  have := (Nat.pow_lt_pow_iff_right (show 1 < 10 by omega)).mp hpow
  omega

/-! ### Shifting the point -/

/-- The digits after the point was shifted to the right, unless there are more
    than fit, or to the left, unless that would leave a fraction. -/
def shift (width : Nat) (digits : List Char) (scale : Int) : Option (List Char) :=
  if scale < 0 then
    if digits.length ≤ (-scale).toNat ∨
        (digits.drop (digits.length - (-scale).toNat)).all (· = '0') = false then none
    else some (digits.take (digits.length - (-scale).toNat))
  else if width < digits.length + scale.toNat then none
  else some (digits ++ List.replicate scale.toNat '0')

section Shift

variable {width : Nat} {digits result : List Char} {scale : Int}

/-- What was shifted begins as before. -/
theorem Significant.shift (h : Significant digits) (hshift : shift width digits scale = some result) :
    Significant result := by
  obtain ⟨c, cs, rfl, hc⟩ := h.start
  unfold Decimal.shift at hshift
  split at hshift
  · split at hshift
    · cases hshift
    · next hguard =>
      cases hshift
      obtain ⟨hlength, _⟩ := not_or.mp hguard
      refine ⟨fun d hd => h.all d (mem_of_mem_take hd), c, ?_⟩
      obtain ⟨k, hk⟩ : ∃ k, (c :: cs).length - (-scale).toNat = k + 1 :=
        ⟨(c :: cs).length - (-scale).toNat - 1, by omega⟩
      exact ⟨cs.take k, by rw [hk, take_succ_cons], hc⟩
  · split at hshift
    · cases hshift
    · cases hshift
      refine ⟨fun d hd => ?_, c, cs ++ replicate scale.toNat '0', rfl, hc⟩
      rcases mem_append.mp hd with hd | hd
      · exact h.all d hd
      · rw [eq_of_mem_replicate hd]
        rfl

/-- Shifting keeps the value. -/
theorem shift_eq_some (h : shift width digits scale = some result) (hdigits : Digits digits) :
    (number digits : ℚ) * 10 ^ scale = number result := by
  unfold shift at h
  split at h
  · next hneg =>
    split at h
    · cases h
    · next hguard =>
      obtain ⟨hlength, hzeros⟩ := not_or.mp hguard
      cases h
      have hscale : scale = -((-scale).toNat : Int) := by omega
      generalize (-scale).toNat = remove at *
      -- The digits that are taken off are zeros.
      have hsplit := take_append_drop (digits.length - remove) digits
      have hdrop : number (digits.drop (digits.length - remove)) = 0 := by
        refine (number_eq_zero_iff fun c hc => hdigits c (mem_of_mem_drop hc)).mpr ?_
        simpa using hzeros
      have hlen : (digits.drop (digits.length - remove)).length = remove := by
        rw [length_drop]
        omega
      have hnumber : number digits =
          number (digits.take (digits.length - remove)) * 10 ^ remove := by
        conv_lhs => rw [← hsplit]
        rw [number_append, hdrop, hlen, Nat.add_zero]
      rw [hnumber, hscale, zpow_neg, zpow_natCast]
      push_cast
      field_simp
  · next hneg =>
    split at h
    · cases h
    · cases h
      have hscale : scale = (scale.toNat : Int) := by omega
      rw [number_append, number_zeros, length_replicate, Nat.add_zero, hscale, zpow_natCast]
      push_cast
      rfl

/-- When the value is a small integer, the point can be shifted. -/
theorem exists_shift (h : Significant digits) {n : Nat} (hn : n < 10 ^ width)
    (hvalue : (number digits : ℚ) * 10 ^ scale = n) :
    ∃ result, shift width digits scale = some result := by
  unfold shift
  split
  · next hneg =>
    have hscale : scale = -((-scale).toNat : Int) := by omega
    generalize (-scale).toNat = remove at *
    have hnumber : number digits = n * 10 ^ remove := by
      rw [hscale, zpow_neg, zpow_natCast] at hvalue
      field_simp at hvalue
      rw [Nat.mul_comm]
      exact_mod_cast hvalue
    -- The number is not zero, so it has more digits than are taken off.
    have hpos : 0 < number digits := lt_of_lt_of_le (by positivity) h.pow_le
    have hlength : remove < digits.length := by
      have hle : 10 ^ remove ≤ number digits := by
        rw [hnumber]
        exact Nat.le_mul_of_pos_left _ (Nat.pos_of_ne_zero fun hzero => by simp [hzero, hnumber] at hpos)
      exact (Nat.pow_lt_pow_iff_right (show 1 < 10 by omega)).mp (hle.trans_lt (number_lt h.all))
    have hzeros : (digits.drop (digits.length - remove)).all (· = '0') = true := by
      have hdrop : Digits (digits.drop (digits.length - remove)) :=
        fun c hc => h.all c (mem_of_mem_drop hc)
      have hlen : (digits.drop (digits.length - remove)).length = remove := by
        rw [length_drop]
        omega
      have hlt := number_lt hdrop
      have hsum : number digits = number (digits.take (digits.length - remove)) * 10 ^ remove +
          number (digits.drop (digits.length - remove)) := by
        conv_lhs => rw [← take_append_drop (digits.length - remove) digits]
        rw [number_append, hlen]
      rw [hlen] at hlt
      have hmod : number digits % 10 ^ remove = 0 := by rw [hnumber, Nat.mul_mod_left]
      rw [hsum, Nat.mul_add_mod_self_right, Nat.mod_eq_of_lt hlt] at hmod
      simpa using (number_eq_zero_iff hdrop).mp hmod
    rw [if_neg]
    · exact ⟨_, rfl⟩
    · rw [not_or]
      exact ⟨by omega, by simp [hzeros]⟩
  · next hneg =>
    have hscale : scale = (scale.toNat : Int) := by omega
    have hnumber : number digits * 10 ^ scale.toNat = n := by
      rw [hscale, zpow_natCast] at hvalue
      exact_mod_cast hvalue
    have hpow : 10 ^ (digits.length - 1 + scale.toNat) < 10 ^ width := by
      calc 10 ^ (digits.length - 1 + scale.toNat)
          = 10 ^ (digits.length - 1) * 10 ^ scale.toNat := pow_add _ _ _
        _ ≤ number digits * 10 ^ scale.toNat := Nat.mul_le_mul_right _ h.pow_le
        _ = n := hnumber
        _ < 10 ^ width := hn
    have hlength := (Nat.pow_lt_pow_iff_right (show 1 < 10 by omega)).mp hpow
    have hpos := h.length_pos
    rw [if_neg (by omega)]
    exact ⟨_, rfl⟩

end Shift

/-! ### Numerals -/

structure Exponent where
  /-- It is introduced by `E`. -/
  upper : Bool
  /-- The sign, if there is one, and whether it is `-`. -/
  sign : Option Bool
  digits : List Char
deriving DecidableEq, Repr

/-- The parts of a numeral. There is a point when there are digits after it. -/
structure Parts where
  negative : Bool
  whole : List Char
  fraction : List Char
  exponent : Option Exponent
deriving DecidableEq, Repr

def Exponent.value (e : Exponent) : Int :=
  if e.sign = some true then -(number e.digits : Int) else number e.digits

def Exponent.text (e : Exponent) : List Char :=
  (if e.upper then 'E' else 'e') ::
    (match e.sign with
      | some true => '-' :: e.digits
      | some false => '+' :: e.digits
      | none => e.digits)

namespace Parts

def exponentValue (p : Parts) : Int := (p.exponent.map Exponent.value).getD 0

def digits (p : Parts) : List Char := p.whole ++ p.fraction

/-- Where the point is, counted from the last digit. -/
def scale (p : Parts) : Int := p.exponentValue - p.fraction.length

def signed (p : Parts) (n : Int) : Int := if p.negative then -n else n

/-- The value the numeral would have with another exponent. -/
def atExponent (p : Parts) (e : Int) : ℚ :=
  (if p.negative then -1 else 1) * (number p.digits * 10 ^ (e - p.fraction.length))

def value (p : Parts) : ℚ := p.atExponent p.exponentValue

def fractionText (p : Parts) : List Char := if p.fraction = [] then [] else '.' :: p.fraction

def exponentText (p : Parts) : List Char := (p.exponent.map Exponent.text).getD []

def text (p : Parts) : List Char :=
  (if p.negative then ['-'] else []) ++ p.whole ++ p.fractionText ++ p.exponentText

end Parts

/-- A numeral. There is no superfluous zero before the point, and there are
    digits wherever they are announced. -/
structure Numeral extends Parts where
  whole_digits : Digits whole
  whole_start : whole = ['0'] ∨ ∃ c cs, whole = c :: cs ∧ c ≠ '0'
  fraction_digits : Digits fraction
  exponent_digits : ∀ e ∈ exponent, Digits e.digits ∧ e.digits ≠ []

theorem Numeral.digits_digits (t : Numeral) : Digits t.digits := by
  intro c hc
  rcases mem_append.mp hc with hc | hc
  · exact t.whole_digits c hc
  · exact t.fraction_digits c hc

theorem Numeral.length_fraction_le (t : Numeral) :
    t.whole.length + t.fraction.length ≤ t.text.length := by
  have hfraction : t.fraction.length ≤ t.fractionText.length := by
    unfold Parts.fractionText
    split
    · next hnil => rw [hnil]
    · exact Nat.le_succ _
  simp only [Parts.text, length_append]
  omega

/-- A numeral has few characters. -/
theorem Numeral.mem_text (t : Numeral) {c : Char} (hc : c ∈ t.text) :
    c.isDigit = true ∨ c ∈ ['-', '+', '.', 'e', 'E'] := by
  simp only [Parts.text, mem_append] at hc
  rcases hc with ((hc | hc) | hc) | hc
  · split at hc
    · rw [mem_singleton.mp hc]
      exact .inr (by decide)
    · cases hc
  · exact .inl (t.whole_digits c hc)
  · unfold Parts.fractionText at hc
    split at hc
    · cases hc
    · rcases mem_cons.mp hc with rfl | hc
      · exact .inr (by decide)
      · exact .inl (t.fraction_digits c hc)
  · cases he : t.exponent with
    | none =>
      rw [Parts.exponentText, he] at hc
      cases hc
    | some e =>
      have hdigits := (t.exponent_digits e he).1
      simp only [Parts.exponentText, he, Option.map_some, Option.getD_some, Exponent.text,
        mem_cons] at hc
      rcases hc with rfl | hc
      · cases e.upper <;> exact .inr (by decide)
      · split at hc
        · rcases mem_cons.mp hc with rfl | hc
          · exact .inr (by decide)
          · exact .inl (hdigits c hc)
        · rcases mem_cons.mp hc with rfl | hc
          · exact .inr (by decide)
          · exact .inl (hdigits c hc)
        · exact .inl (hdigits c hc)

/-! ### Reading numerals -/

/-- What is missing. -/
inductive Malformed where
  | number
  | fraction
  | exponent
deriving DecidableEq, Repr

def scanWhole : List Char → Except Malformed (List Char × List Char)
  | [] => .error .number
  | c :: rest =>
    if c = '0' then .ok (['0'], rest)
    else if c.isDigit then
      .ok ((c :: rest).takeWhile Char.isDigit, (c :: rest).dropWhile Char.isDigit)
    else .error .number

def scanFraction : List Char → Except Malformed (List Char × List Char)
  | '.' :: rest =>
    if rest.takeWhile Char.isDigit = [] then .error .fraction
    else .ok (rest.takeWhile Char.isDigit, rest.dropWhile Char.isDigit)
  | rest => .ok ([], rest)

def scanSign : List Char → Option Bool × List Char
  | '-' :: rest => (some true, rest)
  | '+' :: rest => (some false, rest)
  | rest => (none, rest)

def scanExponent : List Char → Except Malformed (Option Exponent × List Char)
  | [] => .ok (none, [])
  | c :: rest =>
    if c = 'e' ∨ c = 'E' then
      let (sign, rest) := scanSign rest
      if rest.takeWhile Char.isDigit = [] then .error .exponent
      else
        .ok (some ⟨c = 'E', sign, rest.takeWhile Char.isDigit⟩, rest.dropWhile Char.isDigit)
    else .ok (none, c :: rest)

def scanMinus : List Char → Bool × List Char
  | '-' :: rest => (true, rest)
  | rest => (false, rest)

/-- A numeral is read from left to right, up to where it ends. -/
def scan (text : List Char) : Except Malformed (Parts × List Char) := do
  let (negative, rest) := scanMinus text
  let (whole, rest) ← scanWhole rest
  let (fraction, rest) ← scanFraction rest
  let (exponent, rest) ← scanExponent rest
  pure (⟨negative, whole, fraction, exponent⟩, rest)

/-- An expression for numerals is matched. What is not complete does not belong
    to the numeral. -/
def recognise (text : List Char) : Option (Parts × List Char) := do
  let (negative, rest) := scanMinus text
  let (whole, rest) ← (scanWhole rest).toOption
  let (fraction, rest) := (scanFraction rest).toOption.getD ([], rest)
  let (exponent, rest) := (scanExponent rest).toOption.getD (none, rest)
  pure (⟨negative, whole, fraction, exponent⟩, rest)

/-- A numeral does not go on with this text. -/
def Stops (rest : List Char) : Prop :=
  ∀ c ∈ rest.head?, c.isDigit = false ∧ c ≠ '.' ∧ c ≠ 'e' ∧ c ≠ 'E'

section Reading

variable {digits rest : List Char}

theorem span_digits (h : Digits digits) (hrest : ∀ c ∈ rest.head?, c.isDigit = false) :
    (digits ++ rest).takeWhile Char.isDigit = digits ∧
      (digits ++ rest).dropWhile Char.isDigit = rest := by
  rw [takeWhile_append_of_pos h, dropWhile_append_of_pos h]
  cases rest with
  | nil => simp
  | cons c rest => simp [hrest c rfl]

theorem not_digit_exponentText (t : Numeral) (hrest : Stops rest) :
    ∀ c ∈ (t.exponentText ++ rest).head?, c.isDigit = false ∧ c ≠ '.' := by
  intro c hc
  cases he : t.exponent with
  | none =>
    rw [Parts.exponentText, he] at hc
    exact ⟨(hrest c hc).1, (hrest c hc).2.1⟩
  | some e =>
    rw [Parts.exponentText, he] at hc
    cases hu : e.upper <;> simp [Exponent.text, hu] at hc <;> subst hc <;> decide

theorem not_digit_fractionText (t : Numeral) (hrest : Stops rest) :
    ∀ c ∈ (t.fractionText ++ (t.exponentText ++ rest)).head?, c.isDigit = false := by
  unfold Parts.fractionText
  split
  · exact fun c hc => (not_digit_exponentText t hrest c hc).1
  · intro c hc
    cases hc
    decide

theorem scanMinus_text (t : Numeral) (rest : List Char) :
    scanMinus ((if t.negative then ['-'] else []) ++ t.whole ++ rest) =
      (t.negative, t.whole ++ rest) := by
  cases hneg : t.negative with
  | true => rfl
  | false =>
    obtain ⟨c, cs, hwhole⟩ : ∃ c cs, t.whole = c :: cs := by
      rcases t.whole_start with h | ⟨c, cs, h, _⟩
      · exact ⟨_, _, h⟩
      · exact ⟨c, cs, h⟩
    have hc := t.whole_digits c (by rw [hwhole]; exact mem_cons_self)
    have hne : c ≠ '-' := by
      rintro rfl
      cases hc
    simp [hwhole, scanMinus, hne]

theorem scanWhole_text (t : Numeral) (hrest : ∀ c ∈ rest.head?, c.isDigit = false) :
    scanWhole (t.whole ++ rest) = .ok (t.whole, rest) := by
  rcases t.whole_start with h | ⟨c, cs, h, hc⟩
  · rw [h]
    rfl
  · have hdigit := t.whole_digits c (by rw [h]; exact mem_cons_self)
    obtain ⟨htake, hdrop⟩ := span_digits t.whole_digits hrest
    rw [h] at htake hdrop ⊢
    rw [cons_append, scanWhole, if_neg hc, if_pos hdigit, ← cons_append, htake, hdrop]

theorem scanFraction_text (t : Numeral) (hrest : ∀ c ∈ rest.head?, c.isDigit = false ∧ c ≠ '.') :
    scanFraction (t.fractionText ++ rest) = .ok (t.fraction, rest) := by
  unfold Parts.fractionText
  split
  · next hnil =>
    rw [hnil, nil_append]
    match rest, hrest with
    | [], _ => rfl
    | c :: rest, hrest =>
      have hc := (hrest c rfl).2
      simp [scanFraction, hc]
  · next hne =>
    obtain ⟨htake, hdrop⟩ := span_digits t.fraction_digits fun c hc => (hrest c hc).1
    rw [cons_append, scanFraction, htake, hdrop, if_neg hne]

theorem scanSign_text (e : Exponent) (rest : List Char) (hdigits : Digits e.digits)
    (hne : e.digits ≠ []) :
    scanSign ((match e.sign with
      | some true => '-' :: e.digits
      | some false => '+' :: e.digits
      | none => e.digits) ++ rest) = (e.sign, e.digits ++ rest) := by
  match hs : e.sign with
  | some true => rfl
  | some false => rfl
  | none =>
    match hds : e.digits with
    | [] => exact absurd hds hne
    | c :: cs =>
      have hc := hdigits c (by rw [hds]; exact mem_cons_self)
      have hminus : c ≠ '-' := by
        rintro rfl
        cases hc
      have hplus : c ≠ '+' := by
        rintro rfl
        cases hc
      simp [scanSign, hminus, hplus]

theorem scanExponent_text (t : Numeral) (hrest : Stops rest) :
    scanExponent (t.exponentText ++ rest) = .ok (t.exponent, rest) := by
  unfold Parts.exponentText
  cases he : t.exponent with
  | none =>
    match rest, hrest with
    | [], _ => rfl
    | c :: rest, hrest =>
      obtain ⟨_, _, hlower, hupper⟩ := hrest c rfl
      simp [scanExponent, hlower, hupper]
  | some e =>
    obtain ⟨hdigits, hne⟩ := t.exponent_digits e he
    obtain ⟨htake, hdrop⟩ := span_digits hdigits fun c hc => (hrest c hc).1
    have hsign := scanSign_text e rest hdigits hne
    simp only [Option.map_some, Option.getD_some, Exponent.text, cons_append, scanExponent]
    rw [if_pos (by cases e.upper <;> simp), hsign]
    simp only [htake, hdrop, if_neg hne]
    cases hu : e.upper <;> simp [← hu]

/-- A numeral is read back. -/
theorem scan_text (t : Numeral) (hrest : Stops rest) :
    scan (t.text ++ rest) = .ok (t.toParts, rest) := by
  have hexponent := not_digit_exponentText t hrest
  have hfraction := not_digit_fractionText t hrest
  simp only [scan, Parts.text, append_assoc]
  rw [← append_assoc, scanMinus_text]
  simp only [scanWhole_text t hfraction, bind, Except.bind, scanFraction_text t hexponent,
    scanExponent_text t hrest]
  rfl

theorem scan_text_nil (t : Numeral) : scan t.text = .ok (t.toParts, []) := by
  have hscan := scan_text t (show Stops [] from nofun)
  rwa [append_nil] at hscan

/-- A numeral is recognised. -/
theorem recognise_text (t : Numeral) (hrest : Stops rest) :
    recognise (t.text ++ rest) = some (t.toParts, rest) := by
  have hexponent := not_digit_exponentText t hrest
  have hfraction := not_digit_fractionText t hrest
  simp only [recognise, Parts.text, append_assoc]
  rw [← append_assoc, scanMinus_text]
  simp only [scanWhole_text t hfraction, bind, Option.bind, Except.toOption,
    scanFraction_text t hexponent, scanExponent_text t hrest, Option.getD_some]
  rfl

end Reading

end Decimal
