import LoxFrontEnd.Number.Decimal
import LoxFrontEnd.Proofs.Delimited
import LoxFrontEnd.Proofs.Rounding
import Mathlib.Algebra.Order.Field.Power
import Mathlib.Data.Nat.Digits.Defs

/-!
# Values of numbers

What digits, decimals and the bits of a number stand for, as rational numbers. A decimal is rounded
to the number nearest to its value (`Decimal.isNearest_iff`), unless the value is too large
(`Decimal.nearest?_eq_none_iff`), and how the decimal is written has no influence on it
(`Decimal.nearest?_congr`).
-/
namespace LoxFrontEnd

/-- The value of a digit. -/
def digitValue (c : Char) : ℕ := c.toNat - '0'.toNat

/-- The value of digits in front of a point: each counts ten times the next. -/
def wholeValue : Text → ℚ
  | [] => 0
  | c :: cs => digitValue c * 10 ^ cs.length + wholeValue cs

/-- The value of digits behind a point. -/
def fractionValue : Text → ℚ
  | [] => 0
  | c :: cs => (digitValue c + fractionValue cs) / 10

/-- The value of digits, or of digits on both sides of a point. -/
def literalValue (t : Text) : ℚ :=
  wholeValue (t.takeWhile isDigit) + fractionValue ((t.dropWhile isDigit).drop 1)

namespace Decimal

/-- The value of a decimal. -/
def value (d : Decimal) : ℚ := d.digits * 10 ^ d.exponent

theorem valueOf_eq (t : Text) : valueOf t = Nat.ofDigitChars 10 t 0 := by
  rw [valueOf, Nat.ofDigitChars_eq_foldl]
  simp only [Nat.mul_comm]

theorem valueOf_append (s t : Text) : valueOf (s ++ t) = valueOf s * 10 ^ t.length + valueOf t := by
  simp only [valueOf_eq]
  rw [Nat.ofDigitChars_append, Nat.ofDigitChars_eq_ofDigitChars_zero, Nat.mul_comm]

theorem valueOf_cons (c : Char) (t : Text) :
    valueOf (c :: t) = digitValue c * 10 ^ t.length + valueOf t := by
  have hdigit : valueOf [c] = digitValue c := by simp [valueOf, digitValue]
  rw [← hdigit, ← valueOf_append, List.singleton_append]

theorem wholeValue_eq (t : Text) : wholeValue t = valueOf t := by
  induction t with
  | nil => simp [wholeValue, valueOf]
  | cons c t ih =>
    rw [wholeValue, valueOf_cons, ih]
    push_cast
    ring

theorem fractionValue_eq (t : Text) : fractionValue t = valueOf t / 10 ^ t.length := by
  induction t with
  | nil => simp [fractionValue, valueOf]
  | cons c t ih =>
    rw [fractionValue, valueOf_cons, ih, List.length_cons, pow_succ]
    push_cast
    field_simp

theorem denominator_pos (d : Decimal) : 0 < d.denominator := Nat.pow_pos (by decide)

theorem numerator_div_denominator (d : Decimal) : (d.numerator / d.denominator : ℚ) = d.value := by
  simp only [numerator, denominator, value, Nat.pow_eq]
  push_cast
  have hexponent : d.exponent = (d.exponent.toNat : ℤ) - ((-d.exponent).toNat : ℤ) := by omega
  rw [hexponent, zpow_sub₀ (by norm_num), zpow_natCast, zpow_natCast, mul_div_assoc, ← hexponent]

theorem value_nonneg (d : Decimal) : 0 ≤ d.value := by
  rw [← numerator_div_denominator]
  positivity

theorem bne_point_of_isDigits {t : Text} (ht : IsDigits t) : ∀ c ∈ t, (c != '.') = true := by
  refine Text.bne_of_not_mem fun h => ?_
  exact absurd (ht.2 '.' h) (by decide)

theorem ofText_of_isDigits {t : Text} (ht : IsDigits t) : ofText t = ⟨valueOf t, 0⟩ := by
  have hwhole := List.takeWhile_eq_self_iff.mpr (bne_point_of_isDigits ht)
  have hrest := List.dropWhile_eq_nil_iff.mpr (bne_point_of_isDigits ht)
  simp [ofText, hwhole, hrest]

theorem ofText_of_point {digits : Text} (hdigits : IsDigits digits) (decimals : Text) :
    ofText (digits ++ '.' :: decimals) =
      ⟨valueOf (digits ++ decimals), -(decimals.length : ℤ)⟩ := by
  have hstop : Text.Stops ('.' :: decimals) (· != '.') := by simp
  rw [ofText, Text.takeWhile_run (bne_point_of_isDigits hdigits) hstop,
    Text.dropWhile_run (bne_point_of_isDigits hdigits) hstop]
  rfl

theorem value_of_decimals (digits decimals : Text) :
    (⟨valueOf (digits ++ decimals), -(decimals.length : ℤ)⟩ : Decimal).value =
      wholeValue digits + fractionValue decimals := by
  simp only [value, valueOf_append, wholeValue_eq, fractionValue_eq]
  push_cast
  rw [zpow_neg, zpow_natCast]
  field_simp

/-- A literal is read as the decimal with its value. -/
theorem value_ofText {t : Text} (ht : LexicalClass.number.Contains t) :
    (ofText t).value = literalValue t := by
  obtain hdigits | ⟨digits, decimals, rfl, hdigits, hdecimals⟩ := ht
  · rw [ofText_of_isDigits hdigits, literalValue, List.takeWhile_eq_self_iff.mpr hdigits.2,
      List.dropWhile_eq_nil_iff.mpr hdigits.2, wholeValue_eq]
    simp [value, fractionValue]
  · have hstop : Text.Stops ('.' :: decimals) isDigit := by simp; decide
    rw [ofText_of_point hdigits, literalValue, Text.takeWhile_run hdigits.2 hstop,
      Text.dropWhile_run hdigits.2 hstop, value_of_decimals]
    rfl

end Decimal

namespace Binary64

/-- The number that 64 bits stand for: a sign, an exponent and a fraction. Without an exponent the
fraction counts as it is, and else one is put in front of it. -/
def value (x : Binary64) : ℚ :=
  let sign : ℚ := if x.bits.toNat / 2 ^ 63 = 0 then 1 else -1
  let exponent : ℕ := x.bits.toNat / 2 ^ 52 % 2048
  let fraction : ℕ := x.bits.toNat % 2 ^ 52
  if exponent = 0 then sign * (fraction / 2 ^ 52) * 2 ^ (-1022 : ℤ)
  else sign * (1 + fraction / 2 ^ 52) * 2 ^ ((exponent : ℤ) - 1023)

/-- The finite number nearest to `v`, the one with an even fraction of two. Numbers are compared by
what they stand for, so both zeros are one. -/
structure IsNearest (x : Binary64) (v : ℚ) : Prop where
  finite : x.isFinite
  nonneg : x.isNegative = false
  dist_le (y : Binary64) : y.isFinite → |x.value - v| ≤ |y.value - v|
  even_of_tie (y : Binary64) : y.isFinite → y.value ≠ x.value →
    |x.value - v| = |y.value - v| → x.bits.toNat % 2 = 0

/-- The number with a given code and no sign. -/
def size (code : ℕ) : ℚ := units code / 2 ^ 1074

/-- The fields of a number without its sign are read off its code. -/
theorem value_eq (x : Binary64) : x.value = (if x.isNegative then -1 else 1) * size x.code := by
  have hsize := x.bits.toNat_lt
  have hsign : (x.bits.toNat / 2 ^ 63 = 0) = ¬x.isNegative := by
    simp only [isNegative, Nat.pow_eq, decide_eq_true_eq, eq_iff_iff]
    omega
  have hexponent : x.bits.toNat / 2 ^ 52 % 2048 = x.code / 2 ^ 52 := by
    simp only [code, Nat.pow_eq]
    omega
  have hfraction : x.bits.toNat % 2 ^ 52 = x.code % 2 ^ 52 := by
    simp only [code, Nat.pow_eq]
    omega
  simp only [value, hsign, hexponent, hfraction, size, units, Nat.pow_eq, ite_not]
  generalize (if x.isNegative = true then (-1 : ℚ) else 1) = sign
  have hleast : (2 : ℚ) ^ 1074 = 2 ^ 52 * 2 ^ 1022 := pow_add 2 52 1022
  have hscale : (2 : ℚ) ^ (1022 : ℤ) = 2 ^ 1022 := zpow_natCast 2 1022
  have hpos : (0 : ℚ) < 2 ^ 1022 := pow_pos two_pos 1022
  rw [hleast]
  by_cases hsmall : x.code / 2 ^ 52 = 0
  · have hlt : x.code < 2 ^ 52 := by omega
    rw [if_pos hsmall, if_pos hlt, Nat.mod_eq_of_lt hlt, zpow_neg, hscale]
    generalize (2 : ℚ) ^ 1022 = scale at *
    field_simp
  · have hge : ¬x.code < 2 ^ 52 := by omega
    obtain ⟨e, he⟩ := Nat.exists_eq_succ_of_ne_zero hsmall
    have hexponent : ((e.succ : ℕ) : ℤ) - 1023 = (e : ℤ) - 1022 := by omega
    rw [if_neg hsmall, if_neg hge, he, hexponent, zpow_sub₀ two_ne_zero, zpow_natCast, hscale,
      Nat.succ_sub_one]
    generalize (2 : ℚ) ^ 1022 = scale at *
    push_cast
    field_simp
    norm_num

theorem value_of_nonneg {x : Binary64} (hx : x.isNegative = false) : x.value = size x.code := by
  rw [value_eq, hx, if_neg Bool.false_ne_true, one_mul]

theorem value_of_negative {x : Binary64} (hx : x.isNegative) : x.value = -size x.code := by
  rw [value_eq, if_pos hx, neg_one_mul]

theorem code_of_nonneg {x : Binary64} (hx : x.isNegative = false) : x.code = x.bits.toNat := by
  simp only [isNegative, Nat.pow_eq, decide_eq_false_iff_not, not_le] at hx
  rw [code, Nat.pow_eq, Nat.mod_eq_of_lt hx]

theorem eq_of_code_eq {x y : Binary64} (hx : x.isNegative = false) (hy : y.isNegative = false)
    (h : x.code = y.code) : x = y := by
  rw [code_of_nonneg hx, code_of_nonneg hy] at h
  cases x
  cases y
  exact congrArg mk (UInt64.toNat_inj.mp h)

/-- Codes of finite numbers leave the sign alone. -/
theorem toNat_toUInt64 {code : ℕ} (h : code < infinity) : code.toUInt64.toNat = code := by
  have hlt : code < 2 ^ 64 := h.trans (by decide)
  simpa using hlt

theorem isNegative_toUInt64 {code : ℕ} (h : code < infinity) :
    isNegative ⟨code.toUInt64⟩ = false := by
  have hlt : code < Nat.pow 2 63 := h.trans (by decide)
  simpa [isNegative, toNat_toUInt64 h] using hlt

theorem size_nonneg (code : ℕ) : 0 ≤ size code :=
  div_nonneg (Nat.cast_nonneg _) (pow_pos two_pos 1074).le

@[simp] theorem size_zero : size 0 = 0 := by
  rw [size, show units 0 = 0 from rfl, Nat.cast_zero, zero_div]

theorem size_injective : Function.Injective size := by
  intro code code' h
  rw [size, size, div_left_inj' (pow_pos two_pos 1074).ne', Nat.cast_inj] at h
  exact units_strictMono.injective h

theorem dist_size (code : ℕ) (v : ℚ) :
    |size code - v| = |(units code : ℚ) - 2 ^ 1074 * v| / 2 ^ 1074 := by
  have hpos : (0 : ℚ) < 2 ^ 1074 := pow_pos two_pos 1074
  rw [size]
  generalize (2 : ℚ) ^ 1074 = scale at *
  rw [div_sub' hpos.ne', abs_div, abs_of_pos hpos]

/-- What is negative is at least as far away as the same size without a sign. -/
theorem dist_neg_size {v : ℚ} (hv : 0 ≤ v) (code : ℕ) : |-size code - v| = size code + v := by
  have hsize := size_nonneg code
  rw [abs_of_nonpos (by linarith)]
  ring

section

variable {x : Binary64} {v : ℚ}

theorem dist_size_le (h : IsNearestCode (2 ^ 1074 * v) x.code) (code : ℕ) :
    |size x.code - v| ≤ |size code - v| := by
  rw [dist_size, dist_size, div_le_div_iff_of_pos_right (pow_pos two_pos 1074)]
  exact h.dist_le code

theorem even_of_dist_size_eq (hx : x.isNegative = false)
    (h : IsNearestCode (2 ^ 1074 * v) x.code) {code : ℕ} (hne : code ≠ x.code)
    (heq : |size x.code - v| = |size code - v|) : x.bits.toNat % 2 = 0 := by
  rw [dist_size, dist_size, div_left_inj' (pow_pos two_pos 1074).ne'] at heq
  rw [← code_of_nonneg hx]
  exact h.even_of_tie code hne heq

/-- A number without a sign is the nearest of all if its code is. -/
theorem isNearest_of_isNearestCode (hv : 0 ≤ v) (hfinite : x.isFinite)
    (hx : x.isNegative = false) (h : IsNearestCode (2 ^ 1074 * v) x.code) : x.IsNearest v := by
  have hsum (code : ℕ) : |size code - v| ≤ size code + v := by
    have hsize := size_nonneg code
    rw [abs_le]
    constructor <;> linarith
  refine ⟨hfinite, hx, fun y hy => ?_, fun y hy hne heq => ?_⟩
  · rw [value_of_nonneg hx]
    cases hsign : y.isNegative with
    | false =>
      rw [value_of_nonneg hsign]
      exact dist_size_le h y.code
    | true =>
      rw [value_of_negative hsign, dist_neg_size hv]
      exact (dist_size_le h y.code).trans (hsum y.code)
  · rw [value_of_nonneg hx] at heq hne
    cases hsign : y.isNegative with
    | false =>
      rw [value_of_nonneg hsign] at heq hne
      exact even_of_dist_size_eq hx h (fun hcode => hne (congrArg size hcode)) heq
    | true =>
      rw [value_of_negative hsign] at heq hne
      rw [dist_neg_size hv] at heq
      by_cases hcode : y.code = x.code
      · -- Both are zero, so they stand for the same number.
        rw [hcode] at heq hne
        have hzero := dist_size_le h 0
        rw [heq, size_zero, zero_sub, abs_neg, abs_of_nonneg hv] at hzero
        have hsize := size_nonneg x.code
        exact absurd (show -size x.code = size x.code by linarith) hne
      · refine even_of_dist_size_eq hx h hcode ?_
        exact le_antisymm (dist_size_le h y.code) (heq ▸ hsum y.code)

/-- There is only one nearest number, also among the finite ones alone. -/
theorem IsNearest.eq_of_isNearestCode {y : Binary64} (hy : y.IsNearest v) (hfinite : x.isFinite)
    (hx : x.isNegative = false) (h : IsNearestCode (2 ^ 1074 * v) x.code) : y = x := by
  refine eq_of_code_eq hy.nonneg hx ?_
  by_contra hne
  have hdist : |size y.code - v| = |size x.code - v| := by
    have hle := hy.dist_le x hfinite
    rw [value_of_nonneg hy.nonneg, value_of_nonneg hx] at hle
    exact le_antisymm hle (dist_size_le h y.code)
  have hvalues : x.value ≠ y.value := by
    rw [value_of_nonneg hy.nonneg, value_of_nonneg hx]
    intro heq
    exact hne (size_injective heq.symm)
  have heven : y.code % 2 = 0 := by
    rw [code_of_nonneg hy.nonneg]
    refine hy.even_of_tie x hfinite hvalues ?_
    rwa [value_of_nonneg hy.nonneg, value_of_nonneg hx]
  rw [dist_size, dist_size, div_left_inj' (pow_pos two_pos 1074).ne'] at hdist
  refine hne (IsNearestCode.unique ⟨fun other => ?_, fun _ _ _ => heven⟩ h)
  rw [hdist]
  exact h.dist_le other

end

end Binary64

namespace Decimal

open Binary64

variable {d : Decimal} {x : Binary64}

theorem isNearestCode (d : Decimal) :
    IsNearestCode (2 ^ 1074 * d.value) (nearestCode d.numerator d.denominator) := by
  rw [← numerator_div_denominator]
  exact isNearestCode_nearestCode d.numerator d.denominator_pos

/-- A decimal is rounded to the number with the nearest code. -/
theorem nearest?_eq_some_iff : d.nearest? = some x ↔
    x.isFinite ∧ x.isNegative = false ∧ IsNearestCode (2 ^ 1074 * d.value) x.code := by
  have hnearest := d.isNearestCode
  rw [nearest?, ofRatio?]
  generalize nearestCode d.numerator d.denominator = code at *
  constructor
  · intro h
    split at h
    · rename_i hfinite
      cases h
      have hbits : code.toUInt64.toNat = code := toNat_toUInt64 hfinite
      have hsign : isNegative ⟨code.toUInt64⟩ = false := isNegative_toUInt64 hfinite
      have hcode : Binary64.code ⟨code.toUInt64⟩ = code := (code_of_nonneg hsign).trans hbits
      simp only [isFinite, hcode, decide_eq_true_eq]
      exact ⟨hfinite, hsign, hnearest⟩
    · cases h
  · rintro ⟨hfinite, hsign, hcode⟩
    obtain rfl : x.code = code := hcode.unique hnearest
    rw [isFinite, decide_eq_true_eq] at hfinite
    rw [if_pos hfinite, Option.some.injEq]
    exact eq_of_code_eq (isNegative_toUInt64 hfinite) hsign
      ((code_of_nonneg (isNegative_toUInt64 hfinite)).trans (toNat_toUInt64 hfinite))

/-- A decimal is too large from the middle between the largest number and the next power of two
on. -/
theorem nearest?_eq_none_iff : d.nearest? = none ↔ 2 ^ 1024 - 2 ^ 970 ≤ d.value := by
  have hlimit : (2 ^ 2098 - 2 ^ 2044 : ℚ) = 2 ^ 1074 * (2 ^ 1024 - 2 ^ 970) := by
    rw [mul_sub, ← pow_add, ← pow_add]
  have hfinite := d.isNearestCode.lt_infinity_iff
  rw [hlimit, mul_lt_mul_iff_right₀ (pow_pos two_pos 1074)] at hfinite
  rw [nearest?, ofRatio?, ← not_lt, ← hfinite]
  simp

/-- How a decimal is written has no influence on how it is rounded. -/
theorem nearest?_congr {d' : Decimal} (h : d.value = d'.value) : d.nearest? = d'.nearest? := by
  refine Option.ext fun x => ?_
  rw [nearest?_eq_some_iff, nearest?_eq_some_iff, h]

/-- A decimal is rounded to the number nearest to its value. -/
theorem isNearest_iff (h : d.nearest? = some x) (y : Binary64) :
    y.IsNearest d.value ↔ y = x := by
  obtain ⟨hfinite, hsign, hcode⟩ := nearest?_eq_some_iff.mp h
  constructor
  · intro hy
    exact hy.eq_of_isNearestCode hfinite hsign hcode
  · rintro rfl
    exact isNearest_of_isNearestCode d.value_nonneg hfinite hsign hcode

end Decimal

end LoxFrontEnd
