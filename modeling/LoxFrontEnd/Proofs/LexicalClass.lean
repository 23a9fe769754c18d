import LoxFrontEnd.Lexeme
import Mathlib.Data.List.TakeWhile

/-!
# Lexical classes

The texts that mean something by themselves, class by class and without a word on how they are
found in a source. The first character of such a text gives away its class, but for comments,
which begin like an operator (`opening_of_contains`).
-/
namespace LoxFrontEnd

/-- One or more digits. -/
def IsDigits (t : Text) : Prop := t ≠ [] ∧ ∀ c ∈ t, isDigit c

inductive LexicalClass
  | blank
  | comment
  | operator
  | string
  | number
  | word
  deriving DecidableEq, Repr

namespace LexicalClass

/-- The texts of a class. -/
def Contains : LexicalClass → Text → Prop
  | blank, t => ∃ c ∈ [' ', '\r', '\t', '\n'], t = [c]
  | comment, t => ∃ body, t = '/' :: '/' :: body ∧ '\n' ∉ body
  | operator, t => ∃ o : Operator, t = o.spelling
  | string, t => ∃ value, t = '"' :: value ++ ['"'] ∧ '"' ∉ value
  | number, t => IsDigits t ∨
      ∃ digits decimals, t = digits ++ '.' :: decimals ∧ IsDigits digits ∧ IsDigits decimals
  | word, t => ∃ c cs, t = c :: cs ∧ (Text.isAlphabetic c ∨ c = '_') ∧
      ∀ d ∈ cs, Text.isAlphabetic d ∨ Text.isNumeric d ∨ d = '_'

/-- The class that a character opens. A slash opens an operator, even where a comment follows. -/
def opening (c : Char) : Option LexicalClass :=
  if isBlank c then some blank
  else if c = '"' then some string
  else if isDigit c then some number
  else if isIdentifierStart c then some word
  else if (Operator.ofSpelling? [c]).isSome then some operator
  else none

/-- The class as far as the first character tells. -/
def family : LexicalClass → LexicalClass
  | comment => operator
  | k => k

theorem ne_nil_of_contains {k : LexicalClass} {t : Text} (h : k.Contains t) : t ≠ [] := by
  cases k with
  | blank => obtain ⟨c, -, rfl⟩ := h; simp
  | comment => obtain ⟨body, rfl, -⟩ := h; simp
  | operator => obtain ⟨o, rfl⟩ := h; cases o <;> simp [Operator.spelling]
  | string => obtain ⟨value, rfl, -⟩ := h; simp
  | number =>
    obtain h | ⟨digits, decimals, rfl, -, -⟩ := h
    · exact h.1
    · simp
  | word => obtain ⟨c, cs, rfl, -, -⟩ := h; simp

lemma isBlank_iff (c : Char) : isBlank c ↔ c ∈ [' ', '\r', '\t', '\n'] := by
  simp [isBlank, or_assoc]

lemma isIdentifierStart_iff (c : Char) : isIdentifierStart c ↔ Text.isAlphabetic c ∨ c = '_' := by
  simp [isIdentifierStart]

lemma isIdentifierPart_iff (c : Char) :
    isIdentifierPart c ↔ Text.isAlphabetic c ∨ Text.isNumeric c ∨ c = '_' := by
  simp [isIdentifierPart, or_assoc]

lemma isDigit_iff (c : Char) : isDigit c ↔ 48 ≤ c.toNat ∧ c.toNat ≤ 57 := by
  simp [isDigit, Char.le_def, UInt32.le_iff_toNat_le]

lemma isIdentifierStart_of_isDigit {c : Char} (h : isDigit c) : isIdentifierStart c = false := by
  obtain ⟨hlow, hhigh⟩ := (isDigit_iff c).mp h
  have hne : c ≠ '_' := by rintro rfl; exact absurd h (by decide)
  have halpha : c.isAlpha = false := by
    have hall : ∀ n < 58, 48 ≤ n → (Char.ofNat n).isAlpha = false := by decide
    rw [← Char.ofNat_toNat c]
    exact hall c.toNat (by omega) hlow
  simp [isIdentifierStart, Text.isAlphabetic_of_ascii (show c.toNat < 0x80 by omega), halpha, hne]

theorem opening_of_isBlank {c : Char} (h : isBlank c) : opening c = some blank := if_pos h

/-- A class of characters without blanks is left by a blank. -/
lemma not_of_isBlank {p : Char → Bool} (hp : [' ', '\r', '\t', '\n'].all (!p ·) = true) {c : Char}
    (hc : isBlank c) : p c = false := by
  simpa using List.all_eq_true.mp hp c ((isBlank_iff c).mp hc)

/-- A class of characters without blanks and quotes is disjoint from what is tested first. -/
lemma not_isBlank_and_ne_quote {p : Char → Bool}
    (hp : [' ', '\r', '\t', '\n'].all (!p ·) = true) (hquote : p '"' = false) {c : Char} (h : p c) :
    ¬isBlank c ∧ c ≠ '"' := by
  constructor
  · intro hc
    simp [not_of_isBlank hp hc] at h
  · rintro rfl
    simp [hquote] at h

theorem opening_of_isDigit {c : Char} (h : isDigit c) : opening c = some number := by
  obtain ⟨hblank, hquote⟩ := not_isBlank_and_ne_quote (p := isDigit) (by decide) (by decide) h
  rw [opening, if_neg hblank, if_neg hquote, if_pos h]

theorem opening_of_isIdentifierStart {c : Char} (h : isIdentifierStart c) :
    opening c = some word := by
  obtain ⟨hblank, hquote⟩ :=
    not_isBlank_and_ne_quote (p := isIdentifierStart) (by decide) (by decide) h
  have hdigit : ¬isDigit c := by
    intro hc
    simp [isIdentifierStart_of_isDigit hc] at h
  rw [opening, if_neg hblank, if_neg hquote, if_neg hdigit, if_pos h]

theorem opening_of_spelling {o : Operator} {c : Char} {cs : Text} (h : o.spelling = c :: cs) :
    opening c = some operator := by
  cases o <;> cases h <;> decide

@[simp] theorem opening_slash : opening '/' = some operator :=
  opening_of_spelling (show Operator.slash.spelling = ['/'] from rfl)

@[simp] theorem opening_quote : opening '"' = some string := by decide

/-- What the first character says about itself, which reads `opening` backwards. -/
theorem opening_eq_some {c : Char} {k : LexicalClass} (h : opening c = some k) :
    match k with
    | blank => isBlank c
    | string => c = '"'
    | number => isDigit c
    | word => isIdentifierStart c
    | operator => ∃ o, Operator.ofSpelling? [c] = some o
    | comment => False := by
  unfold opening at h
  split_ifs at h with hblank hquote hdigit hword hoperator <;> cases h
  · exact hblank
  · exact hquote
  · exact hdigit
  · exact hword
  · exact Option.isSome_iff_exists.mp hoperator

/-- The first character of a text tells its family. -/
theorem opening_of_contains {k : LexicalClass} {c : Char} {cs : Text} (h : k.Contains (c :: cs)) :
    opening c = some k.family := by
  cases k with
  | blank =>
    obtain ⟨d, hd, he⟩ := h
    cases he
    exact opening_of_isBlank ((isBlank_iff c).mpr hd)
  | comment =>
    obtain ⟨body, he, -⟩ := h
    cases he
    exact opening_slash
  | operator =>
    obtain ⟨o, he⟩ := h
    exact opening_of_spelling he.symm
  | string =>
    obtain ⟨value, he, -⟩ := h
    cases he
    exact opening_quote
  | number =>
    obtain h | ⟨digits, decimals, he, hdigits, -⟩ := h
    · exact opening_of_isDigit (h.2 c List.mem_cons_self)
    · obtain ⟨d, ds, rfl⟩ := List.exists_cons_of_ne_nil hdigits.1
      cases he
      exact opening_of_isDigit (hdigits.2 c List.mem_cons_self)
  | word =>
    obtain ⟨d, ds, he, hd, -⟩ := h
    cases he
    exact opening_of_isIdentifierStart ((isIdentifierStart_iff c).mpr hd)

/-- A keyword would be an identifier if it were not reserved. -/
theorem contains_spelling (k : Keyword) : word.Contains k.spelling := by
  have hstart : k.spelling.all isIdentifierStart = true := by cases k <;> decide
  have hne : k.spelling ≠ [] := by cases k <;> simp [Keyword.spelling]
  obtain ⟨c, cs, hspelling⟩ := List.exists_cons_of_ne_nil hne
  rw [hspelling, List.all_cons, Bool.and_eq_true, List.all_eq_true] at hstart
  refine ⟨c, cs, hspelling, (isIdentifierStart_iff c).mp hstart.1, ?_⟩
  intro d hd
  exact ((isIdentifierStart_iff d).mp (hstart.2 d hd)).imp_right .inr

end LexicalClass

/-- What a text is as a token. A number has to be finite, and a word is reserved only as a whole. -/
inductive Denotes : Text → Kind → Option Literal → Prop
  | operator (o : Operator) : Denotes o.spelling (.operator o) none
  | string {value : Text} (hvalue : '"' ∉ value) :
    Denotes ('"' :: value ++ ['"']) .string (some (.string value))
  | number {t : Text} {value : Binary64} (ht : LexicalClass.number.Contains t)
      (hvalue : (Decimal.ofText t).nearest? = some value) :
    Denotes t .number (some (.number value))
  | keyword (k : Keyword) : Denotes k.spelling (.keyword k) none
  | identifier {t : Text} (ht : LexicalClass.word.Contains t)
      (hkeyword : ∀ k : Keyword, k.spelling ≠ t) :
    Denotes t .identifier none

theorem Denotes.kind_ne_eof {t : Text} {kind : Kind} {literal : Option Literal}
    (h : Denotes t kind literal) : kind ≠ .eof := by
  cases h <;> simp

end LoxFrontEnd
