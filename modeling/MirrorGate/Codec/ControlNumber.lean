import MirrorGate.Codec.Number

/-!
# Numbers in Control Frames

The supervisor and the three SDKs for its clients read the numbers of control
frames. The supervisor computes with exact decimals, and the SDKs shift the
point through the digits, with the exponent in an integer of limited size or
in a floating point number.

Frames are long enough for exponents beyond a million to matter, and neither
the Rust nor the C++ SDK goes that far. The Rust SDK even reads another number
when it cuts the exponent off. About zeros the others are wrong: an exponent
that is not a safe integer itself is refused by the Node SDK, and a truly
astronomic one by the supervisor.

## Main definitions

* `supervisorNumber`, `rustNumber`, `cppNumber`, `nodeNumber`: The readers.
* `Moderate`: The numerals that all of them are right about.

## Theorems

* `supervisorNumber_zero`, `rustNumber_reads`, `cppNumber_reads`,
  `nodeNumber_reads`: What each of them makes of a numeral.
* `control_numbers_agree_iff`: When all of them are right.
* `control_numbers_disagree`: Two numerals that they are not all right about.
-/

namespace MirrorGate.Codec

open Decimal Binary64

/-! ### The supervisor -/

/-- `_number`, after the JSON scanner has found the token. -/
def supervisorNumber (text : List Char) : Except String (Int × List Char) :=
  match recognise text with
  | none => .error "invalid UTF-8 JSON"
  | some (p, rest) =>
    (safeDecimal "JSON numbers must be exact safe integers"
      "JSON numbers must be exact safe integers" p).map (·, rest)

/-! ### The Rust SDK -/

/-- Where `Scanner::number` takes a token to end. -/
def rustDelimiters : List Char := [' ', '\t', '\r', '\n', ',', ']', '}', ':']

def rustMalformed : Malformed → String
  | .number => "invalid JSON number"
  | .fraction => "invalid JSON fraction"
  | .exponent => "invalid JSON exponent"

/-- `exact_number`. The result is the canonical text of the integer. -/
def rustExactNumber (text : List Char) : Except String (List Char) :=
  match scan text with
  | .error malformed => .error (rustMalformed malformed)
  | .ok (p, rest) =>
    let exponent := (p.exponent.map (cappedValue 1000001)).getD 0
    let digits := significant p.digits
    if rest ≠ [] then .error "invalid JSON number token"
    else if digits = [] then .ok ['0']
    else do
      let integer ← shiftDigits "fractional JSON number" "unsafe JSON integer" digits
        (exponent - p.fraction.length)
      let _ ← boundDigits "unsafe JSON integer" integer
      pure (if p.negative then '-' :: integer else integer)

/-- `Scanner::number`. -/
def rustNumber (text : List Char) : Except String (Int × List Char) :=
  (rustExactNumber (text.takeWhile fun c => !rustDelimiters.contains c)).map fun canonical =>
    (readInteger canonical, text.dropWhile fun c => !rustDelimiters.contains c)

/-! ### The C++ SDK -/

/-- The exponent, and whether digits were left out of it. -/
def cppExponent (digits : List Char) : Nat × Bool :=
  digits.foldl (fun e c => if e.1 ≤ 1000000 then (e.1 * 10 + digit c, e.2) else (e.1, true))
    (0, false)

def cppExponentValue (e : Exponent) : Int × Bool :=
  let (exponent, overflow) := cppExponent e.digits
  (if e.sign = some true then -(exponent : Int) else exponent, overflow)

/-- `Scanner::number`, which only checks. -/
def cppCheck (text : List Char) : Except String (Parts × List Char) :=
  match scan text with
  | .error _ => .error "Malformed JSON number"
  | .ok (p, rest) =>
    let (exponent, overflow) := (p.exponent.map cppExponentValue).getD (0, false)
    let digits := significant p.digits
    if digits = [] then .ok (p, rest)
    else if overflow ∨ 1000000 < exponent ∨ exponent < -1000000 then .error "Unsafe JSON number"
    else do
      let integer ← shiftDigits "Fractional JSON number" "Unsafe JSON number" digits
        (exponent - p.fraction.length)
      let _ ← boundDigits "Unsafe JSON number" integer
      pure (p, rest)

/-- `Json::parse` and `normalize_integral_numbers`. A number without a fraction
    or an exponent is an integer if it has up to 64 bits, and any other number
    is a floating point number that is converted in the end. -/
def cppParse (p : Parts) : Option Int :=
  let n := number p.digits
  if p.fraction = [] ∧ p.exponent = none ∧ (if p.negative then n ≤ 2 ^ 63 else n < 2 ^ 64) then
    some (p.signed n)
  else (Binary64.ofRat p.value).map Binary64.truncate

def cppNumber (text : List Char) : Except String (Int × List Char) := do
  let (p, rest) ← cppCheck text
  match cppParse p with
  | none => .error "Malformed JSON"
  | some n => .ok (n, rest)

/-! ### The Node SDK -/

/-- The number in `parseControlJson`. The exponent is looked at before the
    digits are. -/
def nodeNumber (text : List Char) : Except String (Int × List Char) :=
  match recognise text with
  | none => .error "Malformed JSON value"
  | some (p, rest) =>
    let digits := significant p.digits
    match Binary64.safeInteger (Binary64.ofRat p.exponentValue) with
    | none => .error "Unsafe JSON number"
    | some exponent =>
      if digits = [] then .ok (0, rest)
      else
        match nodeScale exponent p.fraction.length with
        -- A difference of safe integers is not infinite.
        | none => .error "Unsafe JSON number"
        | some scale => (nodeSettle p digits (Binary64.truncate scale)).map (·, rest)

/-! ### What they make of a numeral -/

section Readers

variable {t : Numeral} {rest : List Char}

theorem supervisorNumber_exact (hrest : Followed rest) (hne : significant t.digits ≠ [])
    (hlength : (t.text ++ rest).length ≤ 1048576) :
    Exact t rest (supervisorNumber (t.text ++ rest)) := by
  simp only [supervisorNumber, recognise_text t hrest.stops]
  exact safeDecimal_exact _ _ hne hlength

theorem supervisorNumber_zero (hrest : Followed rest) (hzero : significant t.digits = []) :
    Exact t rest (supervisorNumber (t.text ++ rest)) ↔
      minExponent ≤ t.scale ∧ t.scale ≤ maxExponent := by
  simp only [supervisorNumber, recognise_text t hrest.stops]
  exact safeDecimal_zero _ _ hzero

/-- A token ends where the numeral does. -/
theorem rustToken (t : Numeral) (hrest : Followed rest) :
    (t.text ++ rest).takeWhile (fun c => !rustDelimiters.contains c) = t.text ∧
      (t.text ++ rest).dropWhile (fun c => !rustDelimiters.contains c) = rest :=
  token_split t hrest (by decide) (by decide)

/-- The exponent of the Rust SDK. -/
theorem rustExponent_eq (cap : Nat) (hcap : cap < 2 ^ 63) (p : Parts) :
    (p.exponent.map (cappedValue cap)).getD 0 = clamp cap p.exponentValue := by
  unfold Parts.exponentValue
  cases p.exponent with
  | none => simp [clamp]
  | some e => exact cappedValue_eq hcap e

/-- The Rust SDK shifts the point, with the exponent cut off. -/
theorem rustNumber_reads (hrest : Followed rest) (hne : significant t.digits ≠ []) :
    Reads t rest (clamp 1000001 t.exponentValue - t.fraction.length)
      (rustNumber (t.text ++ rest)) := by
  obtain ⟨htake, hdrop⟩ := rustToken t hrest
  have hscan := scan_text_nil t
  have hbound := bound_toOption "fractional JSON number" "unsafe JSON integer"
    (Numeral.significant_of_ne hne) (clamp 1000001 t.exponentValue - t.fraction.length)
    (fun integer => (readInteger (if t.negative then '-' :: integer else integer), rest))
    (fun n => (t.signed n, rest)) fun integer h => by rw [readInteger_signed t h]
  unfold Reads
  rw [← hbound]
  simp only [rustNumber, htake, hdrop, rustExactNumber, hscan, ne_eq, not_true_eq_false, if_false,
    if_neg hne, rustExponent_eq 1000001 (by norm_num)]
  cases shiftDigits "fractional JSON number" "unsafe JSON integer" (significant t.digits)
      (clamp 1000001 t.exponentValue - t.fraction.length) with
  | error message => rfl
  | ok integer =>
    simp only [bind, Except.bind]
    cases boundDigits "unsafe JSON integer" integer <;> rfl

theorem rustNumber_zero (hrest : Followed rest) (hzero : significant t.digits = []) :
    Exact t rest (rustNumber (t.text ++ rest)) := by
  obtain ⟨htake, hdrop⟩ := rustToken t hrest
  have hscan := scan_text_nil t
  rw [exact_of_zero hzero]
  simp only [rustNumber, htake, hdrop, rustExactNumber, hscan, ne_eq, not_true_eq_false, if_false,
    if_pos hzero]
  rfl

/-- The exponent of the C++ SDK is right or known to be too large. -/
theorem cppExponent_spec (digits : List Char) :
    cppExponent digits = (number digits, false) ∨
      1000000 < number digits ∧ 1000000 < (cppExponent digits).1 := by
  -- By induction over the digits: once the exponent is large, it stays so.
  have hfold (e : Nat × Bool) (n : Nat) (h : e = (n, false) ∨ 1000000 < n ∧ 1000000 < e.1) :
      let result := digits.foldl
        (fun e c => if e.1 ≤ 1000000 then (e.1 * 10 + digit c, e.2) else (e.1, true)) e
      let m := digits.foldl (fun n c => n * 10 + digit c) n
      result = (m, false) ∨ 1000000 < m ∧ 1000000 < result.1 := by
    induction digits generalizing e n with
    | nil => exact h
    | cons c digits ih =>
      refine ih _ _ ?_
      dsimp only
      by_cases hle : e.1 ≤ 1000000
      · rw [if_pos hle]
        rcases h with rfl | ⟨_, hlarge⟩
        · exact .inl rfl
        · omega
      · rw [if_neg hle]
        refine .inr ⟨?_, by omega⟩
        rcases h with rfl | ⟨hn, _⟩
        · simp only at hle
          omega
        · omega
  exact hfold (0, false) 0 (.inl rfl)

/-- A safe integer survives the conversion. -/
theorem cppParse_of_safe {n : Int} (hvalue : t.value = n) (hle : |n| ≤ maxSafeInteger) :
    cppParse t.toParts = some n := by
  unfold cppParse
  dsimp only
  by_cases hplain : t.fraction = [] ∧ t.exponent = none ∧
      (if t.negative then number t.digits ≤ 2 ^ 63 else number t.digits < 2 ^ 64)
  · rw [if_pos hplain]
    obtain ⟨hfraction, hexponent, _⟩ := hplain
    -- Without a fraction and an exponent the digits are the value.
    have hsigned : t.value = (t.signed (number t.digits) : ℚ) := by
      cases hneg : t.negative <;>
        simp [Parts.value, Parts.atExponent, Parts.exponentValue, hexponent, hfraction,
          Parts.signed, hneg]
    exact congrArg some (by exact_mod_cast hsigned.symm.trans hvalue)
  · have hsafe : |n| ≤ maxSafe := by
      unfold maxSafe
      unfold maxSafeInteger at hle
      omega
    rw [if_neg hplain, hvalue, ofRat_of_safe hsafe, Option.map_some,
      truncate_intCast]

/-- The C++ SDK shifts the point, unless the exponent is large. -/
theorem cppNumber_reads (hrest : Followed rest) (hne : significant t.digits ≠ []) :
    Exact t rest (cppNumber (t.text ++ rest)) ↔
      |t.exponentValue| ≤ 1000000 ∨ settled (significant t.digits) t.scale = none := by
  have hspec : (t.exponent.map cppExponentValue).getD (0, false) = (t.exponentValue, false) ∨
      1000000 < |t.exponentValue| ∧
        1000000 < |((t.exponent.map cppExponentValue).getD (0, false)).1| := by
    unfold Parts.exponentValue
    cases t.exponent with
    | none => exact .inl rfl
    | some e =>
      have hneg : (Option.map Exponent.value (some e)).getD 0 = e.value := rfl
      simp only [Option.map_some, Option.getD_some, cppExponentValue, Exponent.value]
      rcases cppExponent_spec e.digits with h | ⟨hn, hlarge⟩
      · rw [h]
        exact .inl rfl
      · refine .inr ?_
        constructor
        · split <;> simp <;> omega
        · split <;> simp <;> omega
  have hscan := scan_text t hrest.stops
  by_cases hlarge : |t.exponentValue| ≤ 1000000
  · -- Nothing is cut off.
    have hexponent : (t.exponent.map cppExponentValue).getD (0, false) =
        (t.exponentValue, false) := by
      rcases hspec with h | ⟨h, _⟩
      · exact h
      · exact absurd hlarge (not_le.mpr h)
    rw [abs_le] at hlarge
    have hD := Numeral.significant_of_ne hne
    have hcheck : (cppCheck (t.text ++ rest)).toOption =
        (settled (significant t.digits) t.scale).map fun _ => (t.toParts, rest) := by
      rw [← bound_toOption "Fractional JSON number" "Unsafe JSON number" hD t.scale
        (fun _ => (t.toParts, rest)) (fun _ => (t.toParts, rest)) fun _ _ => rfl]
      simp only [cppCheck, hscan, hexponent, if_neg hne]
      rw [if_neg (by simp; omega)]
      rfl
    have hreads : Reads t rest t.scale (cppNumber (t.text ++ rest)) := by
      unfold Reads
      cases hsettled : settled (significant t.digits) t.scale with
      | none =>
        rw [hsettled] at hcheck
        unfold cppNumber
        cases hresult : cppCheck (t.text ++ rest) with
        | error message => rfl
        | ok checked =>
          rw [hresult] at hcheck
          cases hcheck
      | some n =>
        rw [hsettled] at hcheck
        obtain ⟨hvalue, hle⟩ := (signed_iff hne t.exponentValue (t.signed n)).mpr
          ⟨n, hsettled, rfl⟩
        unfold cppNumber
        cases hresult : cppCheck (t.text ++ rest) with
        | error message =>
          rw [hresult] at hcheck
          cases hcheck
        | ok checked =>
          rw [hresult] at hcheck
          cases hcheck
          simp only [bind, Except.bind, cppParse_of_safe hvalue hle]
          rfl
    rw [hreads.exact_iff hne]
    exact iff_of_true rfl (.inl (abs_le.mpr hlarge))
  · have hrefuses : (cppNumber (t.text ++ rest)).toOption = none := by
      unfold cppNumber
      have hcheck : cppCheck (t.text ++ rest) = .error "Unsafe JSON number" := by
        simp only [cppCheck, hscan, if_neg hne]
        refine if_pos ?_
        rcases hspec with h | ⟨_, h⟩
        · rw [h]
          rw [abs_le] at hlarge
          simp only
          omega
        · rw [lt_abs] at h
          omega
      rw [hcheck]
      rfl
    rw [exact_of_refuses hne hrefuses]
    exact ⟨.inr, fun h => h.resolve_left hlarge⟩

theorem cppNumber_zero (hrest : Followed rest) (hzero : significant t.digits = []) :
    Exact t rest (cppNumber (t.text ++ rest)) := by
  have hvalue : t.value = (0 : Int) := by
    rw [Parts.value, value_eq, hzero]
    simp [number]
  have hparse : cppParse t.toParts = some 0 := cppParse_of_safe hvalue (by simp)
  rw [exact_of_zero hzero]
  simp only [cppNumber, cppCheck, scan_text t hrest.stops, if_pos hzero, bind, Except.bind, hparse]
  rfl

/-- The Node SDK is right about every number but zero. -/
theorem nodeNumber_exact (hrest : Followed rest) (hne : significant t.digits ≠ [])
    (hlength : (t.text ++ rest).length ≤ 1048576) :
    Exact t rest (nodeNumber (t.text ++ rest)) := by
  obtain ⟨hdigits, hfraction⟩ := length_significant_le t rest
  have hrec := recognise_text t hrest.stops
  have hsafe := safeInteger_ofRat t.exponentValue
  have hscale : t.scale = t.exponentValue - t.fraction.length := rfl
  by_cases he : |t.exponentValue| ≤ maxSafe
  · rw [if_pos he] at hsafe
    rw [abs_le] at he
    have hcast : (t.exponentValue : ℚ) - t.fraction.length = (t.scale : ℚ) := by
      rw [hscale]
      push_cast
      rfl
    by_cases hsmall : -maxSafe ≤ t.scale
    · -- The difference is a safe integer, and exact.
      have hround := ofRat_of_safe (abs_le.mpr ⟨hsmall, by omega⟩ : |t.scale| ≤ _)
      have hreads : Reads t rest t.scale (nodeNumber (t.text ++ rest)) := by
        simp only [nodeNumber, hrec, hsafe, if_neg hne, nodeScale, hcast, hround,
          truncate_intCast]
        exact nodeSettle_reads t rest t.scale
      exact (hreads.exact_iff hne).mpr rfl
    · -- There are not enough digits, whatever the difference is rounded to.
      have hnone : settled (significant t.digits) t.scale = none := by
        refine settled_eq_none_of_far (.inl ?_)
        unfold maxSafe at hsmall
        omega
      refine (exact_of_refuses hne ?_).mpr hnone
      simp only [nodeNumber, hrec, hsafe, if_neg hne, nodeScale, hcast]
      split
      · rfl
      · next q hq =>
        have hq := truncate_ofRat_le (not_le.mp hsmall) hq
        have hfar : settled (significant t.digits) (truncate q) = none :=
          settled_eq_none_of_far (.inl (by omega))
        rw [nodeSettle_reads t rest (truncate q), hfar, Option.map_none]
  · have hnone : settled (significant t.digits) t.scale = none := by
      refine settled_eq_none_of_far ?_
      unfold maxSafe at he
      rw [not_le, lt_abs] at he
      omega
    refine (exact_of_refuses hne ?_).mpr hnone
    rw [if_neg he] at hsafe
    simp only [nodeNumber, hrec, hsafe]
    rfl

theorem nodeNumber_zero (hrest : Followed rest) (hzero : significant t.digits = []) :
    Exact t rest (nodeNumber (t.text ++ rest)) ↔ |t.exponentValue| ≤ maxSafeInteger := by
  have hsafe := safeInteger_ofRat t.exponentValue
  have hmax : maxSafe = maxSafeInteger := by
    unfold maxSafe maxSafeInteger
    norm_num
  rw [hmax] at hsafe
  rw [exact_of_zero hzero]
  simp only [nodeNumber, recognise_text t hrest.stops, hsafe, hzero]
  by_cases he : |t.exponentValue| ≤ maxSafeInteger
  · simp only [if_pos he]
    exact iff_of_true rfl he
  · simp only [if_neg he]
    exact iff_of_false nofun he

end Readers

/-! ### When all of them are right -/

/-- The numerals that all readers are right about. The exponent of a zero has to
    be a safe integer. Any other exponent has to be up to a million, unless the
    number is not safe anyway, neither as it is nor with the exponent cut
    off. -/
def Moderate (t : Numeral) : Prop :=
  if number t.digits = 0 then |t.exponentValue| ≤ maxSafeInteger
  else |t.exponentValue| ≤ 1000000 ∨
    ¬ Safe t.value ∧ ¬ Safe (t.atExponent (clamp 1000001 t.exponentValue))

/-- The Rust SDK is right when the exponent that it cuts off does not matter. -/
theorem rustNumber_exact_iff {t : Numeral} {rest : List Char} (hrest : Followed rest)
    (hne : significant t.digits ≠ []) : Exact t rest (rustNumber (t.text ++ rest)) ↔
      |t.exponentValue| ≤ 1000001 ∨
        ¬ Safe t.value ∧ ¬ Safe (t.atExponent (clamp 1000001 t.exponentValue)) := by
  have hD := Numeral.significant_of_ne hne
  rw [(rustNumber_reads hrest hne).exact_iff hne, Parts.value, safe_atExponent_iff hne,
    safe_atExponent_iff hne, not_not, not_not]
  by_cases hsmall : |t.exponentValue| ≤ 1000001
  · have hclamp : clamp 1000001 t.exponentValue = t.exponentValue := by
      rw [abs_le] at hsmall
      unfold clamp
      omega
    rw [hclamp]
    exact iff_of_true rfl (.inl hsmall)
  · have hclamp : clamp 1000001 t.exponentValue ≠ t.exponentValue := by
      rw [abs_le] at hsmall
      unfold clamp
      omega
    constructor
    · intro heq
      -- A number that is found at both places would be two numbers.
      cases hsettled : settled (significant t.digits) (t.exponentValue - t.fraction.length) with
      | none => exact .inr ⟨rfl, heq.trans hsettled⟩
      | some n =>
        have := settled_injective hD (heq.trans hsettled) hsettled
        omega
    · rintro (h | ⟨hnone, hnone'⟩)
      · exact absurd h hsmall
      · exact hnone'.trans hnone.symm

/-- The number fifteen, written as `1.50e1`. -/
def fifteen : Numeral where
  negative := false
  whole := ['1']
  fraction := ['5', '0']
  exponent := some ⟨false, none, ['1']⟩
  whole_digits := by decide
  whole_start := .inr ⟨'1', [], rfl, by decide⟩
  fraction_digits := by decide
  exponent_digits := by decide

theorem fifteen_moderate : Moderate fifteen := by
  unfold Moderate
  rw [if_neg (by decide)]
  exact .inl (by decide)

/-- A zero with an exponent that is not a safe integer. -/
def largeZero : Numeral where
  negative := false
  whole := ['0']
  fraction := []
  exponent := some ⟨false, none, "9007199254740992".toList⟩
  whole_digits := by decide
  whole_start := .inl rfl
  fraction_digits := digits_nil
  exponent_digits := by decide

/-- A one with so many zeros, and an exponent that takes a million and two of
    them off. -/
def paddedOne (zeros : Nat) : Numeral where
  negative := false
  whole := '1' :: List.replicate zeros '0'
  fraction := []
  exponent := some ⟨false, some true, "1000002".toList⟩
  whole_digits := by
    intro c hc
    rcases List.mem_cons.mp hc with rfl | hc
    · decide
    · rw [List.eq_of_mem_replicate hc]
      decide
  whole_start := .inr ⟨'1', _, rfl, by decide⟩
  fraction_digits := digits_nil
  exponent_digits := by decide

theorem length_paddedOne (zeros : Nat) : (paddedOne zeros).text.length = zeros + 10 := by
  simp [Parts.text, Parts.fractionText, Parts.exponentText, paddedOne, Exponent.text]

theorem significant_paddedOne (zeros : Nat) :
    significant (paddedOne zeros).digits = '1' :: List.replicate zeros '0' := by
  rw [Parts.digits, paddedOne, List.append_nil, significant, List.dropWhile_cons,
    if_neg (by decide)]

theorem number_paddedOne (zeros : Nat) :
    number (significant (paddedOne zeros).digits) = 10 ^ zeros := by
  rw [significant_paddedOne, number_cons, number_zeros, List.length_replicate]
  simp [digit]

theorem pow_mul_zpow_neg (n k : Nat) : ((10 ^ (n + k) : Nat) : ℚ) * 10 ^ (-(n : Int)) = 10 ^ k := by
  rw [zpow_neg, zpow_natCast, pow_add]
  push_cast
  field_simp

end MirrorGate.Codec
