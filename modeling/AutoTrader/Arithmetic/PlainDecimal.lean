import AutoTrader.Support.JsonLaws

/-!
# Finite decimals and their plain text

A finite decimal is a sign, a coefficient and an exponent; several of them have one value.

* `PlainDecimal`, `PlainDecimal.value` — the decimals, and their values.
* `PlainDecimal.fixedText` — the text without an exponent.
* `parseUnsigned`, `parsePlain` — the plain texts: no exponent, no leading zeros, and a
  sign only where it is allowed.
* `parsePlain_fixedText` — a decimal is read back with its value and its scale.
-/

namespace Arithmetic

/-- A finite decimal number. -/
structure PlainDecimal where
  negative : Bool
  coefficient : ℕ
  exponent : ℤ
  deriving DecidableEq, Repr

namespace PlainDecimal

/-- The number a decimal stands for. -/
def value (d : PlainDecimal) : ℚ :=
  (if d.negative then -1 else 1) * d.coefficient * 10 ^ d.exponent

/-- The decimal without a positive exponent. -/
def plain (d : PlainDecimal) : PlainDecimal :=
  if 0 ≤ d.exponent then ⟨d.negative, d.coefficient * 10 ^ d.exponent.toNat, 0⟩ else d

theorem value_plain (d : PlainDecimal) : d.plain.value = d.value := by
  unfold plain
  split
  · rename_i h
    have hexponent : (10 : ℚ) ^ d.exponent = 10 ^ d.exponent.toNat := by
      rw [← zpow_natCast, Int.toNat_of_nonneg h]
    simp only [value, hexponent, zpow_zero, mul_one, Nat.cast_mul, Nat.cast_pow, Nat.cast_ofNat]
    ring
  · rfl

theorem exponent_plain {d : PlainDecimal} (h : d.exponent ≤ 0) : d.plain.exponent = d.exponent := by
  unfold plain
  split
  · exact le_antisymm (by assumption) h
  · rfl

@[simp] theorem negative_plain (d : PlainDecimal) : d.plain.negative = d.negative := by
  unfold plain
  split <;> rfl

@[simp] theorem plain_plain (d : PlainDecimal) : d.plain.plain = d.plain := by
  by_cases h : 0 ≤ d.exponent
  · have hplain : d.plain = ⟨d.negative, d.coefficient * 10 ^ d.exponent.toNat, 0⟩ := if_pos h
    rw [hplain, plain, if_pos (le_refl 0)]
    simp
  · have hplain : d.plain = d := if_neg h
    rw [hplain, hplain]

/-- A positive decimal has no sign. -/
theorem negative_eq_false {d : PlainDecimal} (h : 0 < d.value) : d.negative = false := by
  by_contra hneg
  have hvalue : d.value ≤ 0 := by
    rw [value, if_pos (by simpa using hneg)]
    have hpow : (0 : ℚ) < 10 ^ d.exponent := zpow_pos (by norm_num) _
    have hcoefficient : (0 : ℚ) ≤ d.coefficient := Nat.cast_nonneg _
    nlinarith [mul_nonneg hcoefficient hpow.le]
  exact absurd h (not_lt.mpr hvalue)

/-! ## Text -/

/-- The digits of the text, with their point. -/
def unsignedText (d : PlainDecimal) : List Char :=
  let digits := Nat.toDigits 10 d.coefficient
  if 0 ≤ d.exponent then
    if d.coefficient = 0 then ['0'] else digits ++ List.replicate d.exponent.toNat '0'
  else
    let places := (-d.exponent).toNat
    if digits.length ≤ places then
      '0' :: '.' :: (List.replicate (places - digits.length) '0' ++ digits)
    else digits.take (digits.length - places) ++ '.' :: digits.drop (digits.length - places)

/-- `format(value, "f")`. -/
def fixedText (d : PlainDecimal) : List Char :=
  (if d.negative then ['-'] else []) ++ d.unsignedText

end PlainDecimal

/-! ## Parsing -/

/-- `(0|[1-9][0-9]*)(\.[0-9]+)?`: the coefficient and the number of decimal places. -/
def parseUnsigned (chars : List Char) : Option (ℕ × ℕ) :=
  let whole := chars.takeWhile Char.isDigit
  if whole = [] ∨ (whole.head? = some '0' ∧ 1 < whole.length) then none
  else match chars.dropWhile Char.isDigit with
    | [] => some (Nat.ofDigitChars 10 whole 0, 0)
    | '.' :: fraction =>
        if fraction ≠ [] ∧ fraction.all Char.isDigit then
          some (Nat.ofDigitChars 10 (whole ++ fraction) 0, fraction.length)
        else none
    | _ => none

/-- The decimal a plain text without a sign denotes. -/
def parseNonnegative (chars : List Char) : Option PlainDecimal :=
  (parseUnsigned chars).map fun (coefficient, places) => ⟨false, coefficient, -places⟩

/-- The decimal a plain text denotes. -/
def parsePlain : List Char → Option PlainDecimal
  | '-' :: chars =>
      (parseUnsigned chars).map fun (coefficient, places) => ⟨true, coefficient, -places⟩
  | chars => parseNonnegative chars

namespace PlainDecimal

theorem toDigits_mul_pow {n : ℕ} (hn : n ≠ 0) (k : ℕ) :
    Nat.toDigits 10 (n * 10 ^ k) = Nat.toDigits 10 n ++ List.replicate k '0' := by
  induction k with
  | zero => simp
  | succ k ih =>
      have hpos : 0 < n * 10 ^ k := Nat.mul_pos (Nat.pos_of_ne_zero hn) (Nat.pos_of_neZero _)
      have hsplit := Nat.toDigits_append_toDigits (b := 10) (n := n * 10 ^ k) (d := 0) (by omega)
        hpos (by omega)
      rw [List.replicate_succ', ← List.append_assoc, ← ih, pow_succ, ← Nat.mul_assoc,
        Nat.mul_comm _ 10]
      simpa using hsplit.symm

theorem isDigit_toDigits (n : ℕ) : ∀ c ∈ Nat.toDigits 10 n, c.isDigit = true :=
  fun _ hc => Nat.isDigit_of_mem_toDigits (by omega) (by omega) hc

/-- A whole number is read back. -/
theorem parseUnsigned_toDigits (n : ℕ) : parseUnsigned (Nat.toDigits 10 n) = some (n, 0) := by
  have hsplit := Json.takeWhile_isDigit_append (isDigit_toDigits n) Json.endsNumeral_nil
  rw [List.append_nil] at hsplit
  have hhead : ¬(Nat.toDigits 10 n = [] ∨
      ((Nat.toDigits 10 n).head? = some '0' ∧ 1 < (Nat.toDigits 10 n).length)) := by
    rcases Json.toDigits_cases n with ⟨hdigits, -⟩ | ⟨c, digits, hdigits, hc, -⟩
    · rw [hdigits]
      decide
    · rw [hdigits]
      simp [hc]
  simp only [parseUnsigned, hsplit.1, hsplit.2, if_neg hhead, Nat.ofDigitChars_ten_toDigits]

/-- A number with decimal places is read back. -/
theorem parseUnsigned_point {whole fraction : List Char}
    (hwhole : ∀ c ∈ whole, c.isDigit = true) (hfraction : ∀ c ∈ fraction, c.isDigit = true)
    (hzero : ¬(whole = [] ∨ (whole.head? = some '0' ∧ 1 < whole.length))) (hne : fraction ≠ []) :
    parseUnsigned (whole ++ '.' :: fraction) =
      some (Nat.ofDigitChars 10 (whole ++ fraction) 0, fraction.length) := by
  have hsplit := Json.takeWhile_isDigit_append hwhole
    (show Json.EndsNumeral ('.' :: fraction) from Json.endsNumeral_cons (by decide))
  have hall : fraction.all Char.isDigit = true := List.all_eq_true.mpr hfraction
  simp only [parseUnsigned, hsplit.1, hsplit.2, if_neg hzero]
  rw [if_pos ⟨hne, hall⟩]

/-- The digits of a decimal are read back. -/
theorem parseUnsigned_unsignedText (d : PlainDecimal) :
    parseUnsigned d.unsignedText = some (d.plain.coefficient, (-d.plain.exponent).toNat) := by
  by_cases hexponent : 0 ≤ d.exponent
  · have hplain : d.plain = ⟨d.negative, d.coefficient * 10 ^ d.exponent.toNat, 0⟩ :=
      if_pos hexponent
    rw [hplain]
    by_cases hzero : d.coefficient = 0
    · simp only [unsignedText, if_pos hexponent, hzero, Nat.zero_mul]
      exact parseUnsigned_toDigits 0
    · simp only [unsignedText, if_pos hexponent, if_neg hzero]
      rw [← toDigits_mul_pow hzero]
      exact parseUnsigned_toDigits _
  · have hplain : d.plain = d := if_neg hexponent
    have hplaces : 0 < (-d.exponent).toNat := by omega
    rw [hplain]
    simp only [unsignedText, if_neg hexponent]
    by_cases hlength : (Nat.toDigits 10 d.coefficient).length ≤ (-d.exponent).toNat
    · rw [if_pos hlength]
      have hdigits := isDigit_toDigits d.coefficient
      have hfraction : ∀ c ∈ List.replicate
          ((-d.exponent).toNat - (Nat.toDigits 10 d.coefficient).length) '0' ++
            Nat.toDigits 10 d.coefficient, c.isDigit = true := by
        intro c hc
        rcases List.mem_append.mp hc with hc | hc
        · rw [List.eq_of_mem_replicate hc]
          decide
        · exact hdigits c hc
      have hwhole : ∀ c ∈ ['0'], c.isDigit = true := List.forall_mem_singleton.mpr rfl
      have hne : List.replicate ((-d.exponent).toNat - (Nat.toDigits 10 d.coefficient).length) '0' ++
          Nat.toDigits 10 d.coefficient ≠ [] :=
        List.append_ne_nil_of_right_ne_nil _ Nat.toDigits_ne_nil
      have hparse := parseUnsigned_point hwhole hfraction (by simp) hne
      rw [List.singleton_append] at hparse
      rw [hparse]
      simp only [List.length_append, List.length_replicate, List.singleton_append,
        Nat.ofDigitChars_cons, Nat.ofDigitChars_append]
      congr 2
      · simp
      · omega
    · rw [if_neg hlength]
      set digits := Nat.toDigits 10 d.coefficient with hdef
      set places := (-d.exponent).toNat with hplacesDef
      have hdigits := isDigit_toDigits d.coefficient
      rw [← hdef] at hdigits
      have hzero : ¬(digits.take (digits.length - places) = [] ∨
          ((digits.take (digits.length - places)).head? = some '0' ∧
            1 < (digits.take (digits.length - places)).length)) := by
        rcases Json.toDigits_cases d.coefficient with ⟨hone, -⟩ | ⟨c, tail, hcons, hc, -⟩
        · rw [← hdef] at hone
          rw [hone] at hlength
          simp only [List.length_singleton] at hlength
          omega
        · rw [← hdef] at hcons
          rw [hcons] at hlength ⊢
          have hpos : (c :: tail).length - places ≠ 0 := by omega
          obtain ⟨k, hk⟩ := Nat.exists_eq_succ_of_ne_zero hpos
          rw [hk, List.take_succ_cons]
          simp [hc]
      have hne : digits.drop (digits.length - places) ≠ [] := by
        intro hnil
        have hdrop := congrArg List.length hnil
        rw [List.length_drop, List.length_nil] at hdrop
        omega
      have hparse := parseUnsigned_point (fun c hc => hdigits c (List.mem_of_mem_take hc))
        (fun c hc => hdigits c (List.mem_of_mem_drop hc)) hzero hne
      have hvalue : Nat.ofDigitChars 10 digits 0 = d.coefficient := Nat.ofDigitChars_ten_toDigits
      rw [hparse, List.take_append_drop, List.length_drop, hvalue]
      congr 2
      omega

theorem exponent_plain_nonpos (d : PlainDecimal) : d.plain.exponent ≤ 0 := by
  unfold plain
  split
  · exact le_refl 0
  · omega

theorem neg_places (d : PlainDecimal) :
    -(((-d.plain.exponent).toNat : ℕ) : ℤ) = d.plain.exponent := by
  have hexponent := exponent_plain_nonpos d
  omega

/-- The digits of a decimal begin with a digit. -/
theorem unsignedText_head (d : PlainDecimal) : ∃ c chars, d.unsignedText = c :: chars ∧ c ≠ '-' := by
  have hparse := parseUnsigned_unsignedText d
  cases htext : d.unsignedText with
  | nil =>
      rw [htext] at hparse
      cases hparse
  | cons c chars =>
      refine ⟨c, chars, rfl, ?_⟩
      rintro rfl
      rw [htext] at hparse
      cases hparse

theorem parseNonnegative_unsignedText (d : PlainDecimal) :
    parseNonnegative d.unsignedText = some ⟨false, d.plain.coefficient, d.plain.exponent⟩ := by
  rw [parseNonnegative, parseUnsigned_unsignedText, Option.map_some]
  simp only [neg_places]

/-- A decimal is read back: its sign, its value, and its scale if that is not negative. -/
theorem parsePlain_fixedText (d : PlainDecimal) : parsePlain d.fixedText = some d.plain := by
  cases hnegative : d.negative with
  | true =>
      simp only [fixedText, hnegative, if_true, List.singleton_append, parsePlain,
        parseUnsigned_unsignedText, Option.map_some, neg_places]
      rw [← hnegative, ← negative_plain d]
  | false =>
      obtain ⟨c, chars, hhead, hc⟩ := unsignedText_head d
      have hparse := parseNonnegative_unsignedText d
      simp only [fixedText, hnegative, Bool.false_eq_true, if_false, List.nil_append]
      rw [hhead] at hparse ⊢
      rw [parsePlain.eq_2 _ (by rintro _ heq; exact hc (List.cons.inj heq).1), hparse]
      rw [← hnegative, ← negative_plain d]

/-- A text with a sign is no unsigned number. -/
theorem parseNonnegative_fixedText (d : PlainDecimal) :
    parseNonnegative d.fixedText = if d.negative then none else some d.plain := by
  cases hnegative : d.negative with
  | true =>
      simp only [fixedText, hnegative, if_true, List.singleton_append, parseNonnegative]
      rfl
  | false =>
      simp only [fixedText, hnegative, Bool.false_eq_true, if_false, List.nil_append,
        parseNonnegative_unsignedText]
      rw [← hnegative, ← negative_plain d]

end PlainDecimal

end Arithmetic
