import LoxFrontEnd.Proofs.NumberValue
import LoxFrontEnd.Proofs.Tiling

/-!
# Number literals

A number literal, however long, is read as the number nearest to its value, or it is reported if
its value is too large for any. Either way the scan goes on right behind it (`number_rounded`).
-/
namespace LoxFrontEnd

theorem IsDigits.lineFeeds_eq {t : Text} (ht : IsDigits t) : t.lineFeeds = 0 := by
  refine List.count_eq_zero.mpr fun h => ?_
  exact absurd (ht.2 '\n' h) (by decide)

section

variable {source : Text} {before after : List Element} {e : Element}

theorem tokens_of_scan_eq (h : scan source = before ++ e :: after) :
    tokens source = before.filterMap Element.token? ++ e.token?.toList ++
      after.filterMap Element.token? ++ [Token.endOfFile (lastLine source)] := by
  rw [tokens, h, List.filterMap_append, List.filterMap_cons]
  cases e.token? <;> simp

theorem diagnostics_of_scan_eq (h : scan source = before ++ e :: after) :
    diagnostics source = before.filterMap Element.diagnostic? ++ e.diagnostic?.toList ++
      after.filterMap Element.diagnostic? := by
  rw [diagnostics, h, List.filterMap_append, List.filterMap_cons]
  cases e.diagnostic? <;> simp

/-- What comes after a lexeme is the scan of the source behind it. -/
theorem after_of_scan_eq (h : scan source = before ++ e :: after) :
    after = Element.place e.stop e.line (Lexeme.cut (source.drop e.stop)) := by
  have hcut : Lexeme.cut source =
      before.map Element.lexeme ++ e.lexeme :: after.map Element.lexeme := by
    rw [← Element.map_lexeme_place 0 1 (Lexeme.cut source), ← scan, h, List.map_append,
      List.map_cons]
  have hplace := h
  rw [scan, hcut, Element.place_append, Element.place] at hplace
  obtain ⟨-, hplaced⟩ := List.append_inj hplace (by
    rw [← List.length_map Element.lexeme, Element.map_lexeme_place, List.length_map])
  obtain ⟨he, hafter⟩ := List.cons.inj hplaced
  have hrest : Lexeme.cut (source.drop e.stop) = after.map Element.lexeme := by
    rw [Lexeme.cut_eq_iff]
    have hisCut := Lexeme.isCut_cut source
    have hjoin := Lexeme.join_cut source
    rw [hcut] at hisCut hjoin
    refine ⟨(Lexeme.isCut_append.mp hisCut).2.2, ?_⟩
    rw [← hjoin, ← he]
    simp [Element.stop, ← List.drop_drop]
  rw [hrest]
  calc
    after = Element.place _ _ (after.map Element.lexeme) := hafter.symm
    _ = Element.place e.stop e.line (after.map Element.lexeme) := by
      rw [← he]
      rfl

/-- A number literal is a token with the number nearest to its value, if that is below the middle
between the largest number and the next power of two. If not, the literal is reported. Nothing else
comes of it, and the source behind it is scanned next. -/
theorem number_rounded (hscan : scan source = before ++ e :: after)
    (ht : LexicalClass.number.Contains e.lexeme.text) :
    let v := literalValue e.lexeme.text
    (v < 2 ^ 1024 - 2 ^ 970 → ∃ x : Binary64, (∀ y : Binary64, y.IsNearest v ↔ y = x) ∧
      tokens source = before.filterMap Element.token? ++
        [⟨.number, e.lexeme.text, some (.number x), e.line⟩] ++
        after.filterMap Element.token? ++ [Token.endOfFile (lastLine source)] ∧
      emissions (scanCalls source) = before.filterMap Element.diagnostic? ++
        after.filterMap Element.diagnostic?) ∧
    (2 ^ 1024 - 2 ^ 970 ≤ v →
      tokens source = before.filterMap Element.token? ++
        after.filterMap Element.token? ++ [Token.endOfFile (lastLine source)] ∧
      emissions (scanCalls source) = before.filterMap Element.diagnostic? ++
        [⟨e.line, [], "Number literal is too large.".toList, some e.span⟩] ++
        after.filterMap Element.diagnostic?) ∧
    e.span.textOf source = e.lexeme.text ∧
    after = Element.place e.stop e.line (Lexeme.cut (source.drop e.stop)) := by
  have hmem : e ∈ scan source := by
    rw [hscan]
    exact List.mem_append_cons_self
  have hvalue := Decimal.value_ofText ht
  have hrole : e.lexeme.role = Lexeme.numberRole e.lexeme.text :=
    congrArg Lexeme.role
      ((delimited_of_mem_scan hmem).eq_of_text_eq (Lexeme.delimited_number ht) rfl)
  rw [emissions_scanCalls, tokens_of_scan_eq hscan, diagnostics_of_scan_eq hscan, ← hvalue]
  refine ⟨fun hsmall => ?_, fun hlarge => ?_, Element.textOf_span hmem, after_of_scan_eq hscan⟩
  · obtain ⟨x, hx⟩ : ∃ x, (Decimal.ofText e.lexeme.text).nearest? = some x := by
      rw [← Option.ne_none_iff_exists', ne_eq, Decimal.nearest?_eq_none_iff, not_le]
      exact hsmall
    have htoken : e.token? = some ⟨.number, e.lexeme.text, some (.number x), e.line⟩ := by
      rw [Element.token?, hrole, Lexeme.numberRole_of_some hx]
    have hdiagnostic : e.diagnostic? = none := by
      rw [Element.diagnostic?, hrole, Lexeme.numberRole_of_some hx]
    refine ⟨x, Decimal.isNearest_iff hx, ?_, ?_⟩
    · rw [htoken, Option.toList_some]
    · rw [hdiagnostic, Option.toList_none, List.append_nil]
  · have hnone := Decimal.nearest?_eq_none_iff.mpr hlarge
    have htoken : e.token? = none := by
      rw [Element.token?, hrole, Lexeme.numberRole_of_none hnone]
    have hdiagnostic : e.diagnostic? =
        some ⟨e.line, [], "Number literal is too large.".toList, some e.span⟩ := by
      rw [Element.diagnostic?, hrole, Lexeme.numberRole_of_none hnone]
      rfl
    constructor
    · rw [htoken, Option.toList_none, List.append_nil]
    · rw [hdiagnostic, Option.toList_some]

end

/-- A one and zeros behind it. -/
def powerOfTen (places : ℕ) : Text := '1' :: List.replicate places '0'

theorem isDigits_powerOfTen (places : ℕ) : IsDigits (powerOfTen places) := by
  refine ⟨List.cons_ne_nil _ _, ?_⟩
  simp only [powerOfTen, List.forall_mem_cons, List.mem_replicate]
  exact ⟨by decide, by rintro c ⟨-, rfl⟩; decide⟩

theorem length_powerOfTen (places : ℕ) : (powerOfTen places).length = places + 1 := by
  simp [powerOfTen]

theorem literalValue_powerOfTen (places : ℕ) : literalValue (powerOfTen places) = 10 ^ places := by
  have hdigits := (isDigits_powerOfTen places).2
  rw [literalValue, List.takeWhile_eq_self_iff.mpr hdigits, List.dropWhile_eq_nil_iff.mpr hdigits,
    Decimal.wholeValue_eq, powerOfTen, Decimal.valueOf_cons, Decimal.valueOf_eq,
    Nat.ofDigitChars_replicate_zero]
  simp [digitValue, fractionValue]

/-- The first literal lies in the middle between two numbers and is read as the even one. The power
of ten behind it is too large. -/
theorem number_rounded_tie_and_overflow :
    let tie := "9007199254740993".toList
    let power := powerOfTen 309
    let source := tie ++ [' '] ++ power
    ∃ first blank last : Element, scan source = [first, blank] ++ last :: [] ∧
      LexicalClass.number.Contains last.lexeme.text ∧
      2 ^ 1024 - 2 ^ 970 ≤ literalValue last.lexeme.text ∧
      tokens source = [⟨.number, tie, some (.number ⟨0x4340000000000000⟩), 1⟩, .endOfFile 1] ∧
      emissions (scanCalls source) =
        [⟨1, [], "Number literal is too large.".toList, some ⟨17, 327⟩⟩] := by
  intro tie power source
  have htie : IsDigits tie := ⟨by decide, List.all_eq_true.mp (by decide)⟩
  have hpower : LexicalClass.number.Contains power := .inl (isDigits_powerOfTen 309)
  have hcut : Lexeme.cut source = [⟨tie, Lexeme.numberRole tie⟩, ⟨[' '], .blank⟩,
      ⟨power, Lexeme.numberRole power⟩] := by
    rw [Lexeme.cut_eq_iff]
    refine ⟨⟨?_, ?_, Lexeme.delimited_number hpower, trivial⟩, ?_⟩
    · exact .whole htie (by simp; decide) (by simp)
    · exact .blank (by decide)
    · simp [source]
  have hfeeds : Text.lineFeeds power = 0 := (isDigits_powerOfTen 309).lineFeeds_eq
  have hlength : List.length power = 310 := length_powerOfTen 309
  have hrole : Lexeme.numberRole tie = .token .number (some (.number ⟨0x4340000000000000⟩)) :=
    Lexeme.numberRole_of_some (by decide +kernel)
  rw [hrole] at hcut
  have hscan : scan source = [⟨⟨tie, .token .number (some (.number ⟨0x4340000000000000⟩))⟩, 0, 1⟩,
      ⟨⟨[' '], .blank⟩, 16, 1⟩] ++ ⟨⟨power, Lexeme.numberRole power⟩, 17, 1⟩ :: [] := by
    rw [scan, hcut]
    simp only [Element.place, hfeeds]
    rfl
  have hlarge : 2 ^ 1024 - 2 ^ 970 ≤ literalValue power := by
    have hcast {m n : ℕ} (h : 2 ^ m ≤ 10 ^ n) : (2 : ℚ) ^ m ≤ 10 ^ n := by exact_mod_cast h
    rw [literalValue_powerOfTen]
    exact (sub_le_self _ (pow_pos two_pos 970).le).trans (hcast (by decide +kernel))
  obtain ⟨-, hover, -⟩ := number_rounded hscan hpower
  obtain ⟨htokens, hemissions⟩ := hover hlarge
  refine ⟨_, _, _, hscan, hpower, hlarge, htokens.trans ?_, hemissions.trans ?_⟩
  · rw [lastLine, Text.lineFeeds_append, hfeeds]
    rfl
  · simp only [Element.span, Element.stop, hlength]
    rfl

end LoxFrontEnd
