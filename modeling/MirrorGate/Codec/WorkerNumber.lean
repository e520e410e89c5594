import MirrorGate.Codec.Number

/-!
# Numbers in Worker Frames and Manifests

The supervisor and the two worker runtimes read the numbers of worker frames
and of manifests. Here the texts are short enough for the caps on exponents:
a number with an exponent of a million would need more digits than fit, unless
it is zero, and about zero nobody looks at the exponent.

The runtime for Rust takes as many digits off the end as there are, where the
others already refuse. The first digit is not zero, so it refuses as well.

## Main definitions

* `supervisorExactNumber`, `runtimeNumber`, `nodeWorkerNumber`: The readers.

## Theorems

* `runtimeShift_eq`: The runtime for Rust shifts the point like the others.
* `supervisorExactNumber_exact`, `runtimeNumber_exact`,
  `nodeWorkerNumber_exact`: Each of them is right.
* `worker_numbers_agree`: All of them are right.
-/

namespace MirrorGate.Codec

open Decimal Binary64

/-! ### The supervisor -/

/-- `_exact_number`, after the JSON scanner has found the token. A coefficient
    of zeros is zero. -/
def supervisorExactNumber (text : List Char) : Except String (Int × List Char) :=
  match recognise text with
  | none => .error "invalid UTF-8 JSON"
  | some (p, rest) =>
    if significant p.digits = [] then .ok (0, rest)
    else
      (safeDecimal "JSON number exceeds supported bounds"
        "JSON numbers must be exact safe integers" p).map (·, rest)

/-! ### The runtime for Rust -/

/-- Where `normalize_numbers` takes a token to end. -/
def runtimeDelimiters : List Char :=
  [' ', '\t', '\r', '\n', ',', ']', '}', ':', '[', '{', '"']

def runtimeExponent (digits : List Char) : Nat :=
  digits.foldl (fun e c => min (e * 10 + digit c) 1000000) 0

def runtimeExponentValue (e : Exponent) : Int :=
  if e.sign = some true then -(runtimeExponent e.digits : Int) else runtimeExponent e.digits

/-- The point is shifted. All digits may be taken off, if they are zeros. -/
def runtimeShift (digits : List Char) (scale : Int) : Except String (List Char) :=
  if scale < 0 then
    if digits.length < (-scale).toNat ∨
        (digits.drop (digits.length - (-scale).toNat)).all (· = '0') = false then
      .error "JSON number is not exactly integral"
    else .ok (digits.take (digits.length - (-scale).toNat))
  else if 16 < digits.length + scale then .error "unsafe JSON integer"
  else .ok (digits ++ List.replicate scale.toNat '0')

def runtimeMalformed : Malformed → String
  | .number => "invalid JSON number"
  | .fraction => "invalid JSON fraction"
  | .exponent => "invalid JSON exponent"

/-- `exact_number`. The result is the canonical text of the integer. -/
def runtimeExactNumber (text : List Char) : Except String (List Char) :=
  match scan text with
  | .error malformed => .error (runtimeMalformed malformed)
  | .ok (p, rest) =>
    let exponent := (p.exponent.map runtimeExponentValue).getD 0
    let digits := significant p.digits
    if rest ≠ [] then .error "invalid JSON number token"
    else if digits = [] then .ok ['0']
    else do
      let integer ← runtimeShift digits (exponent - p.fraction.length)
      let _ ← boundDigits "unsafe JSON integer" integer
      pure (if p.negative then '-' :: integer else integer)

/-- `normalize_numbers` puts the canonical text in the place of the token, and
    the integer is read from there. -/
def runtimeNumber (text : List Char) : Except String (Int × List Char) :=
  (runtimeExactNumber (text.takeWhile fun c => !runtimeDelimiters.contains c)).map
    fun canonical => (readInteger canonical, text.dropWhile fun c => !runtimeDelimiters.contains c)

/-! ### The runtime for Node -/

/-- The number in `parseJson`. An exponent may be infinite. -/
def nodeWorkerNumber (text : List Char) : Except String (Int × List Char) :=
  match recognise text with
  | none => .error "Malformed JSON value"
  | some (p, rest) =>
    let digits := significant p.digits
    let scale := (Binary64.ofRat p.exponentValue).bind (nodeScale · p.fraction.length)
    if digits = [] then .ok (0, rest)
    else
      match Binary64.safeInteger scale with
      | none => .error "Unsafe JSON number"
      | some scale => (nodeSettle p digits scale).map (·, rest)

/-! ### All of them are right -/

section Readers

variable {t : Numeral} {rest : List Char}

theorem supervisorExactNumber_exact (hrest : Followed rest)
    (hlength : (t.text ++ rest).length ≤ 262144) :
    Exact t rest (supervisorExactNumber (t.text ++ rest)) := by
  simp only [supervisorExactNumber, recognise_text t hrest.stops]
  by_cases hzero : significant t.digits = []
  · rw [if_pos hzero, exact_of_zero hzero]
    rfl
  · rw [if_neg hzero]
    exact safeDecimal_exact _ _ hzero (by omega)

/-- The first digit is not zero, so not all digits are taken off. -/
theorem runtimeShift_eq {digits : List Char} (h : Significant digits) (scale : Int) :
    runtimeShift digits scale =
      shiftDigits "JSON number is not exactly integral" "unsafe JSON integer" digits scale := by
  obtain ⟨c, cs, rfl, hc⟩ := h.start
  unfold runtimeShift shiftDigits shift
  by_cases hneg : scale < 0
  · simp only [if_pos hneg]
    generalize (-scale).toNat = remove
    by_cases hall : remove = (c :: cs).length
    · -- Here the tests differ, and the digits decide.
      have hdrop : ((c :: cs).drop ((c :: cs).length - remove)).all (· = '0') = false := by
        rw [hall, Nat.sub_self, List.drop_zero, List.all_cons]
        simp [hc]
      rw [if_pos (.inr hdrop), if_pos (.inl hall.ge)]
    · have hiff : (c :: cs).length < remove ↔ (c :: cs).length ≤ remove := by omega
      simp only [hiff]
      split <;> rfl
  · have hiff : (16 : Int) < (c :: cs).length + scale ↔ 16 < (c :: cs).length + scale.toNat := by
      omega
    simp only [if_neg hneg, hiff]
    split <;> rfl

theorem runtimeExponent_eq (p : Parts) :
    (p.exponent.map runtimeExponentValue).getD 0 = clamp 1000000 p.exponentValue := by
  unfold Parts.exponentValue
  cases p.exponent with
  | none => simp [clamp]
  | some e =>
    have hcapped : runtimeExponent e.digits = min (number e.digits) 1000000 :=
      foldl_capped (fun _ _ _ => rfl) e.digits
    simp only [Option.map_some, Option.getD_some, runtimeExponentValue, clamp, Exponent.value]
    rw [hcapped]
    split <;> omega

/-- The runtime for Rust shifts the point, with the exponent cut off. -/
theorem runtimeNumber_reads (hrest : Followed rest) (hne : significant t.digits ≠ []) :
    Reads t rest (clamp 1000000 t.exponentValue - t.fraction.length)
      (runtimeNumber (t.text ++ rest)) := by
  have hD := Numeral.significant_of_ne hne
  obtain ⟨htake, hdrop⟩ := token_split t hrest
    (show runtimeDelimiters.all _ = true by decide) (by decide)
  have hbound := bound_toOption "JSON number is not exactly integral" "unsafe JSON integer" hD
    (clamp 1000000 t.exponentValue - t.fraction.length)
    (fun integer => (readInteger (if t.negative then '-' :: integer else integer), rest))
    (fun n => (t.signed n, rest)) fun integer h => by rw [readInteger_signed t h]
  rw [Reads, ← hbound]
  simp only [runtimeNumber, htake, hdrop, runtimeExactNumber, scan_text_nil t, ne_eq,
    not_true_eq_false, if_false, if_neg hne, runtimeExponent_eq, runtimeShift_eq hD]
  cases shiftDigits "JSON number is not exactly integral" "unsafe JSON integer"
      (significant t.digits) (clamp 1000000 t.exponentValue - t.fraction.length) with
  | error message => rfl
  | ok integer =>
    simp only [bind, Except.bind]
    cases boundDigits "unsafe JSON integer" integer <;> rfl

theorem runtimeNumber_exact (hrest : Followed rest) (hlength : (t.text ++ rest).length ≤ 262144) :
    Exact t rest (runtimeNumber (t.text ++ rest)) := by
  obtain ⟨hdigits, hfraction⟩ := length_significant_le t rest
  have hscale : t.scale = t.exponentValue - t.fraction.length := rfl
  by_cases hzero : significant t.digits = []
  · obtain ⟨htake, hdrop⟩ := token_split t hrest
      (show runtimeDelimiters.all _ = true by decide) (by decide)
    rw [exact_of_zero hzero]
    simp only [runtimeNumber, htake, hdrop, runtimeExactNumber, scan_text_nil t, ne_eq,
      not_true_eq_false, if_false, if_pos hzero]
    rfl
  · rw [(runtimeNumber_reads hrest hzero).exact_iff hzero]
    by_cases hsmall : clamp 1000000 t.exponentValue = t.exponentValue
    · rw [hsmall]
      rfl
    · -- Where the exponent is cut off, the point is far away, there and here.
      have hfar : settled (significant t.digits)
          (clamp 1000000 t.exponentValue - t.fraction.length) = none := by
        refine settled_eq_none_of_far ?_
        unfold clamp at hsmall ⊢
        omega
      have hfar' : settled (significant t.digits) t.scale = none := by
        refine settled_eq_none_of_far ?_
        unfold clamp at hsmall
        omega
      rw [hfar, hfar']

theorem nodeWorkerNumber_exact (hrest : Followed rest)
    (hlength : (t.text ++ rest).length ≤ 262144) :
    Exact t rest (nodeWorkerNumber (t.text ++ rest)) := by
  obtain ⟨hdigits, hfraction⟩ := length_significant_le t rest
  have hscale : t.scale = t.exponentValue - t.fraction.length := rfl
  have hmax : maxSafe = 9007199254740991 := by decide
  simp only [nodeWorkerNumber, recognise_text t hrest.stops]
  by_cases hzero : significant t.digits = []
  · rw [if_pos hzero, exact_of_zero hzero]
    rfl
  rw [if_neg hzero]
  -- What is computed from an integer in the place of the exponent.
  have hdifference (m : Int) : nodeScale (m : ℚ) t.fraction.length =
      ofRat ((m - t.fraction.length : Int) : ℚ) := by
    rw [nodeScale]
    push_cast
    rfl
  by_cases he : |t.exponentValue| ≤ maxSafe
  · rw [ofRat_of_safe he, Option.bind_some, hdifference, safeInteger_ofRat,
      ← hscale]
    by_cases hsafe : |t.scale| ≤ maxSafe
    · rw [if_pos hsafe]
      exact ((nodeSettle_reads t rest t.scale).exact_iff hzero).mpr rfl
    · rw [if_neg hsafe]
      refine (exact_of_refuses hzero rfl).mpr (settled_eq_none_of_far ?_)
      rw [not_le, lt_abs] at hsafe
      omega
  · -- The number is not safe, so it has to be refused.
    have hnone : settled (significant t.digits) t.scale = none := by
      refine settled_eq_none_of_far ?_
      rw [not_le, lt_abs] at he
      omega
    refine (exact_of_refuses hzero ?_).mpr hnone
    cases hround : ofRat t.exponentValue with
    | none => rfl
    | some q =>
      obtain ⟨m, rfl, hpos, hneg⟩ := exists_int_of_large (not_le.mp he) hround
      rw [Option.bind_some, hdifference, safeInteger_ofRat]
      by_cases hsafe : |m - (t.fraction.length : Int)| ≤ maxSafe
      · -- A difference that has become safe is large all the same.
        have hfar : settled (significant t.digits) (m - t.fraction.length) = none := by
          refine settled_eq_none_of_far (.inr ?_)
          rw [abs_le] at hsafe
          rw [not_le, lt_abs] at he
          omega
        rw [if_pos hsafe]
        simp only
        rw [nodeSettle_reads t rest (m - t.fraction.length), hfar, Option.map_none]
      · rw [if_neg hsafe]
        rfl

end Readers

/-- All readers of worker frames and manifests are right about every numeral. -/
theorem worker_numbers_agree (t : Numeral) (rest : List Char) (hrest : Followed rest)
    (hlength : (t.text ++ rest).length ≤ 262144) :
    Exact t rest (supervisorExactNumber (t.text ++ rest)) ∧
      Exact t rest (runtimeNumber (t.text ++ rest)) ∧
      Exact t rest (nodeWorkerNumber (t.text ++ rest)) :=
  ⟨supervisorExactNumber_exact hrest hlength, runtimeNumber_exact hrest hlength,
    nodeWorkerNumber_exact hrest hlength⟩

/-- The number minus two, written as `-20E-1`. -/
def minusTwo : Numeral where
  negative := true
  whole := ['2', '0']
  fraction := []
  exponent := some ⟨true, some true, ['1']⟩
  whole_digits := by decide
  whole_start := .inr ⟨'2', ['0'], rfl, by decide⟩
  fraction_digits := digits_nil
  exponent_digits := by decide

/-- All readers read the number minus two. -/
theorem worker_numbers_agree_minusTwo : Followed [','] ∧
    Exact minusTwo [','] (supervisorExactNumber (minusTwo.text ++ [','])) ∧
    Exact minusTwo [','] (runtimeNumber (minusTwo.text ++ [','])) ∧
    Exact minusTwo [','] (nodeWorkerNumber (minusTwo.text ++ [','])) :=
  ⟨by decide, worker_numbers_agree minusTwo [','] (by decide) (by decide)⟩

end MirrorGate.Codec
