import LoxFrontEnd.Number.Binary64
import Mathlib.Algebra.Order.Field.Basic
import Mathlib.Data.Rat.Cast.Order
import Mathlib.Order.Monotone.Basic
import Mathlib.Tactic.FieldSimp
import Mathlib.Tactic.Linarith
import Mathlib.Tactic.Positivity
import Mathlib.Tactic.Push
import Mathlib.Tactic.Ring

/-!
# Rounding

Codes count up through the sizes that numbers can have (`units_strictMono`), and between two
neighbours lies a gap of a power of two. A quotient lies in one of these gaps, so rounding it to a
multiple of the width of the gap gives the code of the nearest number, the even one of two that are
equally near (`isNearestCode_nearestCode`). There is only one such code.
-/
namespace LoxFrontEnd.Binary64

/-- The sizes with a spacing of `2 ^ shift`, and the next one after them. -/
theorem units_add {shift m : ℕ} (hm : m ≤ 2 ^ 53) (hshift : shift = 0 ∨ 2 ^ 52 ≤ m) :
    units (2 ^ 52 * shift + m) = m * 2 ^ shift := by
  simp only [units, Nat.pow_eq]
  obtain hlow | hhigh := lt_or_ge m (2 ^ 52)
  · obtain rfl : shift = 0 := by omega
    rw [if_pos (by omega)]
    omega
  obtain hlt | rfl := hm.lt_or_eq
  · have hdiv : (2 ^ 52 * shift + m) / 2 ^ 52 = shift + 1 := by omega
    have hmod : (2 ^ 52 * shift + m) % 2 ^ 52 = m - 2 ^ 52 := by omega
    rw [if_neg (by omega), hdiv, hmod, Nat.add_sub_cancel' hhigh, Nat.add_sub_cancel]
  · have hdiv : (2 ^ 52 * shift + 2 ^ 53) / 2 ^ 52 = shift + 2 := by omega
    have hmod : (2 ^ 52 * shift + 2 ^ 53) % 2 ^ 52 = 0 := by omega
    rw [if_neg (by omega), hdiv, hmod, show shift + 2 - 1 = shift + 1 from rfl, pow_succ]
    ring

theorem exists_shift (code : ℕ) :
    ∃ shift m, code = 2 ^ 52 * shift + m ∧ m < 2 ^ 53 ∧ (shift = 0 ∨ 2 ^ 52 ≤ m) := by
  by_cases h : code < 2 ^ 53
  · exact ⟨0, code, by omega, h, .inl rfl⟩
  · exact ⟨code / 2 ^ 52 - 1, code % 2 ^ 52 + 2 ^ 52, by omega, by omega, .inr (by omega)⟩

/-- A larger code is the code of a larger number. -/
theorem units_strictMono : StrictMono units := by
  refine strictMono_nat_of_lt_succ fun code => ?_
  obtain ⟨shift, m, rfl, hm, hshift⟩ := exists_shift code
  rw [add_assoc, units_add hm.le hshift, units_add (by omega) (by omega)]
  exact Nat.mul_lt_mul_of_pos_right m.lt_succ_self (by positivity)

/-- The code of the number whose size lies nearest to `x`, the even one of two. -/
structure IsNearestCode (x : ℚ) (code : ℕ) : Prop where
  dist_le (other : ℕ) : |(units code : ℚ) - x| ≤ |(units other : ℚ) - x|
  even_of_tie (other : ℕ) : other ≠ code →
    |(units code : ℚ) - x| = |(units other : ℚ) - x| → code % 2 = 0

section

variable {x : ℚ} {code : ℕ}

theorem units_lt {other : ℕ} (h : other < code) : (units other : ℚ) < units code := by
  exact_mod_cast units_strictMono h

theorem units_le {other : ℕ} (h : other ≤ code) : (units other : ℚ) ≤ units code := by
  exact_mod_cast units_strictMono.monotone h

theorem isNearestCode_of_lower (hlower : (units code : ℚ) ≤ x) (hupper : x ≤ units (code + 1))
    (hnear : x - units code ≤ units (code + 1) - x)
    (htie : x - units code = units (code + 1) - x → code % 2 = 0) : IsNearestCode x code := by
  have hcode : |(units code : ℚ) - x| = x - units code := by
    rw [abs_of_nonpos (by linarith), neg_sub]
  refine ⟨fun other => ?_, fun other hne heq => ?_⟩
  · obtain hle | hlt := le_or_gt other code
    · have hunits := units_le hle
      rw [hcode, abs_of_nonpos (by linarith)]
      linarith
    · have hunits : (units (code + 1) : ℚ) ≤ units other := units_le hlt
      rw [hcode, abs_of_nonneg (by linarith)]
      linarith
  · rw [hcode] at heq
    obtain hlt | hgt := hne.lt_or_gt
    · have hunits := units_lt hlt
      rw [abs_of_nonpos (by linarith)] at heq
      linarith
    · have hunits : (units (code + 1) : ℚ) ≤ units other := units_le hgt
      rw [abs_of_nonneg (by linarith)] at heq
      exact htie (by linarith)

theorem isNearestCode_of_upper (hlower : (units code : ℚ) ≤ x) (hupper : x ≤ units (code + 1))
    (hnear : units (code + 1) - x ≤ x - units code)
    (htie : units (code + 1) - x = x - units code → (code + 1) % 2 = 0) :
    IsNearestCode x (code + 1) := by
  have hcode : |(units (code + 1) : ℚ) - x| = units (code + 1) - x :=
    abs_of_nonneg (by linarith)
  refine ⟨fun other => ?_, fun other hne heq => ?_⟩
  · obtain hle | hlt := le_or_gt other code
    · have hunits := units_le hle
      rw [hcode, abs_of_nonpos (by linarith)]
      linarith
    · have hunits : (units (code + 1) : ℚ) ≤ units other := units_le hlt
      rw [hcode, abs_of_nonneg (by linarith)]
      linarith
  · rw [hcode] at heq
    obtain hlt | hgt := hne.lt_or_gt
    · have hunits : (units other : ℚ) ≤ units code := units_le (Nat.le_of_lt_succ hlt)
      rw [abs_of_nonpos (by linarith)] at heq
      exact htie (by linarith)
    · have hunits := units_lt hgt
      rw [abs_of_nonneg (by linarith)] at heq
      linarith

/-- Two codes cannot both be the nearest: of neighbours only one is even. -/
theorem IsNearestCode.le {other : ℕ} (h : IsNearestCode x code) (h' : IsNearestCode x other) :
    code ≤ other := by
  by_contra hlt
  rw [not_le] at hlt
  have hdist := le_antisymm (h.dist_le other) (h'.dist_le code)
  have heven := h.even_of_tie other hlt.ne hdist
  have heven' := h'.even_of_tie code hlt.ne' hdist.symm
  -- Both are even, so there is a code between them, and it is nearer.
  have hbetween := h.dist_le (other + 1)
  have hbelow := units_lt other.lt_succ_self
  have habove : (units (other + 1) : ℚ) < units code := units_lt (by omega)
  have hunits := units_lt hlt
  obtain hx | hx := le_total (units code : ℚ) x
  · rw [abs_of_nonpos (by linarith), abs_of_nonpos (by linarith)] at hdist
    linarith
  obtain hx' | hx' := le_total x (units other : ℚ)
  · rw [abs_of_nonneg (by linarith), abs_of_nonneg (by linarith)] at hdist
    linarith
  rw [abs_of_nonneg (by linarith), abs_of_nonpos (by linarith)] at hdist
  rw [abs_of_nonneg (by linarith)] at hbetween
  obtain hmid | hmid := abs_cases ((units (other + 1) : ℚ) - x)
  · linarith
  · linarith

theorem IsNearestCode.unique {other : ℕ} (h : IsNearestCode x code) (h' : IsNearestCode x other) :
    code = other := le_antisymm (h.le h') (h'.le h)

/-- A size that a number has is rounded to itself. -/
theorem isNearestCode_units (code : ℕ) : IsNearestCode (units code) code := by
  have hunits := units_lt code.lt_succ_self
  refine isNearestCode_of_lower le_rfl hunits.le ?_ ?_
  · linarith
  · intro h
    linarith

end

/-- What rounding to a whole number does with the rest of a division. -/
theorem nearestEven_cases (num den : ℕ) :
    (nearestEven num den = num / den ∧ 2 * (num % den) ≤ den ∧
        (2 * (num % den) = den → num / den % 2 = 0)) ∨
      nearestEven num den = num / den + 1 ∧ den ≤ 2 * (num % den) ∧
        (2 * (num % den) = den → (num / den + 1) % 2 = 0) := by
  unfold nearestEven
  dsimp only
  split_ifs with h <;> omega

/-- The code of the number nearest to a quotient of units. -/
def codeOfUnits (num den : ℕ) : ℕ :=
  let shift := (num / den).log2 - 52
  Nat.pow 2 52 * shift + nearestEven num (den * Nat.pow 2 shift)

theorem nearestCode_eq (num den : ℕ) :
    nearestCode num den = codeOfUnits (Nat.pow 2 1074 * num) den := rfl

/-- With its spacing for a unit, a quotient has 53 binary digits, or fewer if it is small. -/
theorem rounded_bounds (num den : ℕ) {shift : ℕ} (hshift : shift = (num / den).log2 - 52) :
    num / (den * 2 ^ shift) < 2 ^ 53 ∧ (shift = 0 ∨ 2 ^ 52 ≤ num / (den * 2 ^ shift)) := by
  rw [← Nat.div_div_eq_div_mul]
  constructor
  · rw [Nat.div_lt_iff_lt_mul (by positivity), ← pow_add]
    exact lt_of_lt_of_le Nat.lt_log2_self (Nat.pow_le_pow_right (by omega) (by omega))
  · obtain hlow | hhigh := le_or_gt (num / den).log2 52
    · exact .inl (by omega)
    · right
      have hne : num / den ≠ 0 := by
        intro h
        simp [h] at hhigh
      rw [Nat.le_div_iff_mul_le (by positivity), ← pow_add, hshift, Nat.add_sub_cancel' hhigh.le]
      exact Nat.log2_self_le hne

/-- A quotient rounded to a multiple of the spacing around it is the nearest number. -/
theorem isNearestCode_codeOfUnits (num : ℕ) {den : ℕ} (hden : 0 < den) :
    IsNearestCode (num / den) (codeOfUnits num den) := by
  obtain ⟨shift, hshift⟩ : ∃ shift, shift = (num / den).log2 - 52 := ⟨_, rfl⟩
  simp only [codeOfUnits, Nat.pow_eq, ← hshift]
  obtain ⟨hlt, hsmall⟩ := rounded_bounds num den hshift
  have hdivision := Nat.div_add_mod num (den * 2 ^ shift)
  have hrest := Nat.mod_lt num (show 0 < den * 2 ^ shift by positivity)
  have hcases := nearestEven_cases num (den * 2 ^ shift)
  generalize num / (den * 2 ^ shift) = whole at *
  generalize num % (den * 2 ^ shift) = rest at *
  have hlower : (units (2 ^ 52 * shift + whole) : ℚ) = whole * 2 ^ shift := by
    rw [units_add hlt.le hsmall]
    push_cast
    rfl
  have hupper : (units (2 ^ 52 * shift + whole + 1) : ℚ) = (whole + 1) * 2 ^ shift := by
    rw [add_assoc, units_add hlt (by omega)]
    push_cast
    rfl
  have hden' : (0 : ℚ) < den := by exact_mod_cast hden
  have hbelow : (num / den : ℚ) - whole * 2 ^ shift = rest / den := by
    rw [← hdivision]
    push_cast
    field_simp
    ring
  have habove : (whole + 1) * 2 ^ shift - (num / den : ℚ) = (den * 2 ^ shift - rest) / den := by
    rw [sub_div, ← hbelow]
    field_simp
    ring
  have hrest' : (rest : ℚ) < den * 2 ^ shift := by exact_mod_cast hrest
  have hnonneg : (0 : ℚ) ≤ rest / den := by positivity
  have hpos : (0 : ℚ) < (den * 2 ^ shift - rest) / den := div_pos (by linarith) hden'
  have hle : (units (2 ^ 52 * shift + whole) : ℚ) ≤ num / den := by
    rw [hlower, ← sub_nonneg, hbelow]
    exact hnonneg
  have hge : (num / den : ℚ) ≤ units (2 ^ 52 * shift + whole + 1) := by
    rw [hupper, ← sub_nonneg, habove]
    exact hpos.le
  have hmiddle : (rest : ℚ) / den = (den * 2 ^ shift - rest) / den →
      2 * rest = den * 2 ^ shift := by
    intro h
    rw [div_left_inj' hden'.ne'] at h
    have htwice : 2 * (rest : ℚ) = den * 2 ^ shift := by linarith
    exact_mod_cast htwice
  obtain ⟨heq, hnear, htie⟩ | ⟨heq, hnear, htie⟩ := hcases
  · rw [heq]
    refine isNearestCode_of_lower hle hge ?_ ?_
    · rw [hlower, hupper, hbelow, habove, div_le_div_iff_of_pos_right hden']
      have hnear' : 2 * (rest : ℚ) ≤ den * 2 ^ shift := by exact_mod_cast hnear
      linarith
    · rw [hlower, hupper, hbelow, habove]
      intro h
      have heven := htie (hmiddle h)
      omega
  · rw [heq, ← add_assoc]
    refine isNearestCode_of_upper hle hge ?_ ?_
    · rw [hlower, hupper, hbelow, habove, div_le_div_iff_of_pos_right hden']
      have hnear' : (den * 2 ^ shift : ℚ) ≤ 2 * rest := by exact_mod_cast hnear
      linarith
    · rw [hlower, hupper, hbelow, habove]
      intro h
      have heven := htie (hmiddle h.symm)
      omega

/-- The code that a quotient is rounded to is that of the nearest number. -/
theorem isNearestCode_nearestCode (num : ℕ) {den : ℕ} (hden : 0 < den) :
    IsNearestCode (2 ^ 1074 * (num / den)) (nearestCode num den) := by
  have hscaled (k : ℕ) :
      IsNearestCode (2 ^ k * (num / den)) (codeOfUnits (Nat.pow 2 k * num) den) := by
    have hcast : (2 ^ k * (num / den) : ℚ) = (Nat.pow 2 k * num : ℕ) / den := by
      rw [Nat.cast_mul, Nat.pow_eq, Nat.cast_pow, Nat.cast_ofNat, mul_div_assoc]
    rw [hcast]
    exact isNearestCode_codeOfUnits _ hden
  rw [nearestCode_eq]
  exact hscaled 1074

section

variable {x : ℚ} {code : ℕ}

/-- Numbers up to the middle between an odd code and the next are rounded down, and the middle
itself is not. -/
theorem IsNearestCode.le_iff {last : ℕ} (h : IsNearestCode x code) (hlast : last % 2 = 1) :
    code ≤ last ↔ x < ((units last : ℚ) + units (last + 1)) / 2 := by
  have hnext := units_lt last.lt_succ_self
  constructor
  · intro hle
    by_contra hx
    have hunits := units_le hle
    have hdist := h.dist_le (last + 1)
    rw [abs_of_nonpos (by linarith)] at hdist
    obtain habove | hbelow := le_total x (units (last + 1) : ℚ)
    · rw [abs_of_nonneg (by linarith)] at hdist
      -- The next number would be as near, and it is even.
      have hcode : (units code : ℚ) = units last := by linarith
      obtain rfl : code = last := units_strictMono.injective (by exact_mod_cast hcode)
      have heven := h.even_of_tie (code + 1) (Nat.succ_ne_self code) (by
        rw [abs_of_nonpos (by linarith), abs_of_nonneg (by linarith)]
        linarith)
      omega
    · rw [abs_of_nonpos (by linarith)] at hdist
      linarith
  · intro hx
    by_contra hlt
    have hunits : (units (last + 1) : ℚ) ≤ units code := units_le (by omega)
    have hdist := h.dist_le last
    rw [abs_of_nonneg (by linarith)] at hdist
    obtain habove | hbelow := abs_cases ((units last : ℚ) - x) <;> linarith

/-- The middle between the last size with some spacing and the first with the next. -/
theorem middle_eq (shift : ℕ) :
    ((units (2 ^ 52 * shift + (2 ^ 53 - 1)) : ℚ) + units (2 ^ 52 * shift + (2 ^ 53 - 1) + 1)) / 2 =
      (2 ^ 53 - 1 / 2) * 2 ^ shift := by
  have hlast : units (2 ^ 52 * shift + (2 ^ 53 - 1)) = (2 ^ 53 - 1) * 2 ^ shift :=
    units_add (by omega) (by omega)
  have hnext : units (2 ^ 52 * shift + 2 ^ 53) = 2 ^ 53 * 2 ^ shift :=
    units_add le_rfl (by omega)
  rw [add_assoc, Nat.sub_add_cancel (by omega), hlast, hnext]
  push_cast
  ring

/-- A size is rounded to a finite number exactly if it is below the middle between the largest one
and the next power of two. -/
theorem IsNearestCode.lt_infinity_iff (h : IsNearestCode x code) :
    code < infinity ↔ x < 2 ^ 2098 - 2 ^ 2044 := by
  have hinfinity : infinity = 2 ^ 52 * 2045 + (2 ^ 53 - 1) + 1 := rfl
  have hmiddle : ((2 : ℚ) ^ 53 - 1 / 2) * 2 ^ 2045 = 2 ^ 2098 - 2 ^ 2044 := by
    have hhalf : (2 : ℚ) ^ 2045 = 2 ^ 2044 * 2 := pow_succ 2 2044
    have htop : (2 : ℚ) ^ 2098 = 2 ^ 2044 * 2 ^ 54 := pow_add 2 2044 54
    rw [hhalf, htop]
    generalize (2 : ℚ) ^ 2044 = half
    ring
  rw [hinfinity, Nat.lt_succ_iff, h.le_iff (by omega), middle_eq, hmiddle]

end

end LoxFrontEnd.Binary64
