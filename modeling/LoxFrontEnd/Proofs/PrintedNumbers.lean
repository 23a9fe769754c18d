import LoxFrontEnd.Proofs.NumberLiterals

/-!
# Printed numbers

A finite number is printed as digits on both sides of a point, and a scan of the print finds this
number and nothing else (`number_scanned_back`). The digits are read back before they are printed,
or else they are those of the exact value (`Binary64.nearest?_shortest`), and written with a point
among them they keep their value (`Decimal.exists_positional`).
-/
namespace LoxFrontEnd

namespace Binary64

variable {x : Binary64}

theorem value_exactly (x : Binary64) : x.exactly.value = size x.code := by
  have hscaled (k n : ℕ) : (⟨Nat.pow 5 k * n, -(k : ℤ)⟩ : Decimal).value = n / 2 ^ k := by
    have hten : (10 : ℚ) ^ k = 5 ^ k * 2 ^ k := by
      rw [← mul_pow]
      norm_num
    rw [Decimal.value, Nat.pow_eq, zpow_neg, zpow_natCast, hten]
    push_cast
    field_simp
  have hexponent : (-1074 : ℤ) = -((1074 : ℕ) : ℤ) := rfl
  rw [exactly, size, hexponent, hscaled 1074 (units x.code)]

/-- The value of a number is read as this number. -/
theorem nearest?_of_value_eq (hfinite : x.isFinite) (hx : x.isNegative = false) {d : Decimal}
    (h : d.value = size x.code) : d.nearest? = some x := by
  refine Decimal.nearest?_eq_some_iff.mpr ⟨hfinite, hx, ?_⟩
  rw [h, size, mul_div_cancel₀ _ (pow_pos two_pos 1074).ne']
  exact isNearestCode_units x.code

/-- Digits found on a grid read back as the number. -/
theorem fits_of_onGrid? {exponent : ℤ} {d : Decimal} (h : x.onGrid? exponent = some d) :
    d.nearest?.map code = some x.code := by
  unfold onGrid? at h
  extract_lets num den below above fits at h
  have hfits (d : Decimal) (hd : fits d = true) : d.nearest?.map code = some x.code := eq_of_beq hd
  -- The case split is on what fits, and it never looks at the large numbers behind it.
  clear_value num den below above fits
  cases hbelow : fits below <;> cases habove : fits above <;> rw [hbelow, habove] at h <;>
    dsimp only at h
  · cases h
  · cases h
    exact hfits d habove
  · cases h
    exact hfits d hbelow
  · split at h <;> cases h
    · exact hfits d hbelow
    · exact hfits d habove

theorem nearest?_shortest (hfinite : x.isFinite) (hx : x.isNegative = false) :
    x.shortest.nearest? = some x := by
  rw [shortest]
  split
  · rename_i hzero
    refine nearest?_of_value_eq hfinite hx ?_
    simp [Decimal.value, hzero]
  cases hsearch : (List.range 20).findSome? fun (i : ℕ) => x.onGrid? (x.ceilingExponent - i) with
  | none => exact nearest?_of_value_eq hfinite hx x.value_exactly
  | some d =>
    obtain ⟨i, -, hi⟩ := List.exists_of_findSome?_eq_some hsearch
    obtain ⟨y, hy, hcode⟩ := Option.map_eq_some_iff.mp (fits_of_onGrid? hi)
    have hsign := (Decimal.nearest?_eq_some_iff.mp hy).2.1
    rw [Option.getD_some, hy, eq_of_code_eq hsign hx hcode]

theorem text_of_nonneg (hfinite : x.isFinite) (hx : x.isNegative = false) :
    x.text = x.shortest.positional := by
  have hnumber : x.isNaN = false := by
    simp only [isFinite, isNaN, decide_eq_true_eq, decide_eq_false_iff_not] at hfinite ⊢
    omega
  simp [text, hnumber, hfinite, hx]

end Binary64

theorem Text.isDigits_ofNat (n : ℕ) : IsDigits (Text.ofNat n) := by
  refine ⟨Nat.toDigits_ne_nil, fun c hc => ?_⟩
  have hdigit := Nat.isDigit_of_mem_toDigits (by omega) le_rfl hc
  simpa [isDigit, Char.isDigit, Char.le_def] using hdigit

namespace Decimal

theorem valueOf_ofNat (n : ℕ) : valueOf (Text.ofNat n) = n := by
  rw [valueOf_eq, Text.ofNat, Nat.ofDigitChars_ten_toDigits]

theorem valueOf_zeros (n : ℕ) (t : Text) : valueOf (List.replicate n '0' ++ t) = valueOf t := by
  rw [valueOf_append, valueOf_eq (List.replicate n '0'), Nat.ofDigitChars_replicate_zero, mul_zero,
    zero_mul, zero_add]

/-- A decimal is written as digits on both sides of a point, and they have its value. -/
theorem exists_positional (d : Decimal) : ∃ digits decimals,
    d.positional = digits ++ '.' :: decimals ∧ IsDigits digits ∧ IsDigits decimals ∧
      wholeValue digits + fractionValue decimals = d.value := by
  rw [positional]
  split
  · rename_i hexponent
    have hzero : IsDigits ['0'] := ⟨by simp, List.all_eq_true.mp (by decide)⟩
    refine ⟨Text.ofNat d.numerator, ['0'], rfl, Text.isDigits_ofNat _, hzero, ?_⟩
    have hplaces : (-d.exponent).toNat = 0 := by omega
    have hfraction : fractionValue ['0'] = 0 := by simp [fractionValue, digitValue]
    rw [wholeValue_eq, valueOf_ofNat, hfraction, ← numerator_div_denominator, denominator, hplaces]
    simp
  · rename_i hexponent
    extract_lets places digits padded point
    have hdigits : IsDigits digits := Text.isDigits_ofNat d.digits
    have hpadded : ∀ c ∈ padded, isDigit c := by
      intro c hc
      obtain hc | hc := List.mem_append.mp hc
      · rw [List.eq_of_mem_replicate hc]
        decide
      · exact hdigits.2 c hc
    have hlength : places + 1 ≤ padded.length := by
      simp only [padded, List.length_append, List.length_replicate]
      omega
    have hpoint : 0 < point ∧ point < padded.length ∧ padded.length - point = places := by omega
    refine ⟨padded.take point, padded.drop point, rfl, ⟨?_, ?_⟩, ⟨?_, ?_⟩, ?_⟩
    · exact List.ne_nil_of_length_pos (by rw [List.length_take]; omega)
    · intro c hc
      exact hpadded c (List.mem_of_mem_take hc)
    · exact List.ne_nil_of_length_pos (by rw [List.length_drop]; omega)
    · intro c hc
      exact hpadded c (List.mem_of_mem_drop hc)
    · have hexponent : d.exponent = -(places : ℤ) := by omega
      rw [← value_of_decimals, List.take_append_drop, valueOf_zeros, valueOf_ofNat,
        List.length_drop, hpoint.2.2, ← hexponent]

/-- What is written for a decimal is read as its value. -/
theorem value_ofText_positional (d : Decimal) : (ofText d.positional).value = d.value := by
  obtain ⟨digits, decimals, htext, hdigits, -, hvalue⟩ := d.exists_positional
  rw [htext, ofText_of_point hdigits, value_of_decimals, hvalue]

end Decimal

section

variable {x : Binary64}

theorem exists_text (hfinite : x.isFinite) (hx : x.isNegative = false) :
    ∃ digits decimals, x.text = digits ++ ['.'] ++ decimals ∧ IsDigits digits ∧
      IsDigits decimals := by
  obtain ⟨digits, decimals, htext, hdigits, hdecimals, -⟩ := x.shortest.exists_positional
  refine ⟨digits, decimals, ?_, hdigits, hdecimals⟩
  rw [Binary64.text_of_nonneg hfinite hx, htext, List.append_assoc, List.singleton_append]

/-- The print of a number denotes the number. -/
theorem denotes_text (hfinite : x.isFinite) (hx : x.isNegative = false) :
    Denotes x.text .number (some (.number x)) := by
  rw [Binary64.text_of_nonneg hfinite hx]
  obtain ⟨digits, decimals, htext, hdigits, hdecimals, -⟩ := x.shortest.exists_positional
  refine .number (.inr ⟨digits, decimals, htext, hdigits, hdecimals⟩) ?_
  rw [Decimal.nearest?_congr x.shortest.value_ofText_positional]
  exact Binary64.nearest?_shortest hfinite hx

/-- A finite number without a sign is printed as digits on both sides of a point. Scanned again,
they are one token with exactly this number and nothing else, so printing it again changes
nothing. -/
theorem number_scanned_back (hfinite : x.isFinite) (hx : x.isNegative = false) :
    let t := (Literal.number x).text
    (∃ digits decimals, t = digits ++ ['.'] ++ decimals ∧ IsDigits digits ∧ IsDigits decimals) ∧
    emissions (scanCalls t) = [] ∧
    tokens t = [⟨.number, t, some (.number x), 1⟩, .endOfFile 1] ∧
    ((tokens t).filterMap Token.literal).map Literal.text = [t] := by
  intro t
  have hform : ∃ digits decimals, t = digits ++ ['.'] ++ decimals ∧ IsDigits digits ∧
      IsDigits decimals := exists_text hfinite hx
  have hdenotes : Denotes t .number (some (.number x)) := denotes_text hfinite hx
  have hfeeds : Text.lineFeeds t = 0 := by
    obtain ⟨digits, decimals, htext, hdigits, hdecimals⟩ := hform
    rw [htext, Text.lineFeeds_append, Text.lineFeeds_append, hdigits.lineFeeds_eq,
      hdecimals.lineFeeds_eq]
    rfl
  have htokens : tokens t = [⟨.number, t, some (.number x), 1⟩, .endOfFile 1] := by
    rw [tokens, lastLine, scan, hdenotes.cut_eq, hfeeds]
    simp only [Element.place, hfeeds]
    rfl
  refine ⟨hform, ?_, htokens, ?_⟩
  · rw [emissions_scanCalls, diagnostics, scan, hdenotes.cut_eq]
    rfl
  · rw [htokens]
    rfl

end

/-- The least positive number is printed with one digit and many zeros in front of it. -/
theorem number_scanned_back_least :
    let x : Binary64 := ⟨1⟩
    let t := ['0', '.'] ++ List.replicate 323 '0' ++ ['5']
    x.isFinite ∧ x.isNegative = false ∧ (Literal.number x).text = t ∧
      emissions (scanCalls t) = [] ∧
      tokens t = [⟨.number, t, some (.number x), 1⟩, .endOfFile 1] := by
  intro x t
  have hfinite : x.isFinite := by decide
  have hx : x.isNegative = false := by decide
  have htext : (Literal.number x).text = t := by decide +kernel
  obtain ⟨-, hemissions, htokens, -⟩ := number_scanned_back hfinite hx
  rw [htext] at hemissions htokens
  exact ⟨hfinite, hx, htext, hemissions, htokens⟩

end LoxFrontEnd
