import LoxFrontEnd.Proofs.Delimited

/-!
# Cuts

A list of lexemes is the cut of a text exactly if each lexeme is delimited by those after it
(`cut_eq_iff`), so to know how a text is cut it is enough to give such a list. While the end of a
lexeme hangs on the text after it, its role does not: it is a function of the text of the lexeme
(`Delimited.eq_of_text_eq`).
-/
namespace LoxFrontEnd

namespace Lexeme

/-- Every lexeme of a list is delimited by the ones after it and by the rest behind them. -/
def IsCut (rest : Text) : List Lexeme → Prop
  | [] => True
  | l :: ls => Delimited l (ls.flatMap text ++ rest) ∧ IsCut rest ls

theorem isCut_append {rest : Text} {ls ms : List Lexeme} :
    IsCut rest (ls ++ ms) ↔ IsCut (ms.flatMap text ++ rest) ls ∧ IsCut rest ms := by
  induction ls with
  | nil => simp [IsCut]
  | cons l ls ih => simp [IsCut, ih, and_assoc]

theorem isCut_cut (t : Text) : IsCut [] (cut t) := by
  fun_induction cut t with
  | case1 => trivial
  | case2 c cs first ih =>
    refine ⟨?_, ih⟩
    rw [join_cut, List.append_nil]
    exact takeFirst_delimited c cs

theorem cut_flatMap_text {ls : List Lexeme} (h : IsCut [] ls) : cut (ls.flatMap text) = ls := by
  induction ls with
  | nil => simp
  | cons l ls ih =>
    obtain ⟨hfirst, hrest⟩ := h
    rw [List.append_nil] at hfirst
    obtain ⟨c, cs, ht⟩ := List.exists_cons_of_ne_nil
      (List.append_ne_nil_of_left_ne_nil hfirst.text_ne_nil (ls.flatMap text))
    rw [List.flatMap_cons, ht, cut_cons, hfirst.takeFirst_eq ht, ih hrest]

/-- A text is cut into the lexemes that make it up and delimit one another, and there is only one
such list. -/
theorem cut_eq_iff {t : Text} {ls : List Lexeme} :
    cut t = ls ↔ IsCut [] ls ∧ ls.flatMap text = t := by
  constructor
  · rintro rfl
    exact ⟨isCut_cut t, join_cut t⟩
  · rintro ⟨h, rfl⟩
    exact cut_flatMap_text h

theorem IsCut.delimited {rest : Text} {before : List Lexeme} {l : Lexeme} {after : List Lexeme}
    (h : IsCut rest (before ++ l :: after)) : Delimited l (after.flatMap text ++ rest) :=
  (isCut_append.mp h).2.1

theorem numberRole_of_some {t : Text} {value : Binary64}
    (h : (Decimal.ofText t).nearest? = some value) :
    numberRole t = .token .number (some (.number value)) := by
  simp [numberRole, h]

theorem numberRole_of_none {t : Text} (h : (Decimal.ofText t).nearest? = none) :
    numberRole t = .fault .numberTooLarge := by
  simp [numberRole, h]

/-- A number is a token or a fault, even if it is too large. -/
theorem numberRole_cases (t : Text) :
    (∃ value, (Decimal.ofText t).nearest? = some value ∧
      numberRole t = .token .number (some (.number value))) ∨
    ((Decimal.ofText t).nearest? = none ∧ numberRole t = .fault .numberTooLarge) := by
  cases h : (Decimal.ofText t).nearest? with
  | none => exact .inr ⟨rfl, numberRole_of_none h⟩
  | some value => exact .inl ⟨value, rfl, numberRole_of_some h⟩

-- Nothing below asks for the value of a number.
attribute [local irreducible] numberRole

/-- A word is a keyword or an identifier, by its spelling. -/
theorem denotes_wordKind {t : Text} (ht : LexicalClass.word.Contains t) :
    Denotes t (wordKind t) none := by
  unfold wordKind
  split
  · rename_i k hk
    rw [← Keyword.spelling_of_ofSpelling? hk]
    exact .keyword k
  · rename_i hnone
    refine .identifier ht ?_
    rintro k rfl
    simp [Keyword.ofSpelling?_spelling] at hnone

/-- What a role says about a text and about the rest behind it. -/
def Means : Role → Text → Text → Prop
  | .token kind literal, t, _ => Denotes t kind literal
  | .blank, t, _ => LexicalClass.blank.Contains t
  | .comment, t, rest => LexicalClass.comment.Contains t ∧ rest.Stops (· != '\n')
  | .fault .numberTooLarge, t, _ =>
    LexicalClass.number.Contains t ∧ (Decimal.ofText t).nearest? = none
  | .fault .unterminatedString, t, rest => (∃ value, t = '"' :: value ∧ '"' ∉ value) ∧ rest = []
  | .fault .unexpectedCharacter, t, _ => ∃ c, t = [c] ∧ LexicalClass.opening c = none

theorem means_numberRole {t : Text} (ht : LexicalClass.number.Contains t) (rest : Text) :
    Means (numberRole t) t rest := by
  obtain ⟨value, hvalue, hrole⟩ | ⟨hnone, hrole⟩ := numberRole_cases t
  · rw [hrole]
    exact .number ht hvalue
  · rw [hrole]
    exact ⟨ht, hnone⟩

/-- A delimited lexeme has the role that its text and the rest behind it call for. -/
theorem Delimited.means {l : Lexeme} {rest : Text} (h : Delimited l rest) :
    Means l.role l.text rest := by
  cases h with
  | @blank c _ hc => exact ⟨c, (LexicalClass.isBlank_iff c).mp hc, rfl⟩
  | @comment body _ hbody hrest => exact ⟨⟨body, rfl, hbody⟩, hrest⟩
  | string hvalue => exact .string hvalue
  | unterminated hvalue => exact ⟨⟨_, rfl, hvalue⟩, rfl⟩
  | whole hdigits => exact means_numberRole (.inl hdigits) rest
  | decimal hdigits hdecimals =>
    exact means_numberRole (.inr ⟨_, _, rfl, hdigits, hdecimals⟩) rest
  | @word c cs _ hc hcs =>
    exact denotes_wordKind ⟨c, cs, rfl, (LexicalClass.isIdentifierStart_iff c).mp hc,
      fun d hd => (LexicalClass.isIdentifierPart_iff d).mp (hcs d hd)⟩
  | @operator o => exact .operator o
  | @unexpected c _ hc => exact ⟨c, rfl, hc⟩

theorem Delimited.alone {l : Lexeme} {rest : Text} (h : Delimited l rest) : Delimited l [] := by
  cases h with
  | blank hc => exact .blank hc
  | comment hbody => exact .comment hbody (Text.stops_nil _)
  | string hvalue => exact .string hvalue
  | unterminated hvalue => exact .unterminated hvalue
  | whole hdigits => exact .whole hdigits (Text.stops_nil _) (by simp)
  | decimal hdigits hdecimals => exact .decimal hdigits hdecimals (Text.stops_nil _)
  | word hc hcs => exact .word hc hcs (Text.stops_nil _)
  | operator => exact .operator (by simp) (by simp)
  | unexpected hc => exact .unexpected hc

/-- The text after a lexeme decides where it ends, but its role is a function of its own text. -/
theorem Delimited.eq_of_text_eq {l m : Lexeme} {rest rest' : Text} (hl : Delimited l rest)
    (hm : Delimited m rest') (h : l.text = m.text) : l = m := by
  obtain ⟨c, cs, ht⟩ := List.exists_cons_of_ne_nil hl.text_ne_nil
  have hfirst := hl.alone.takeFirst_eq (by rw [ht, List.append_nil])
  rw [hm.alone.takeFirst_eq (by rw [← h, ht, List.append_nil])] at hfirst
  exact (Prod.mk.inj hfirst).1.symm

/-- Nothing but a blank is a single blank character. -/
theorem Delimited.role_of_blank {l : Lexeme} {rest : Text} (h : Delimited l rest)
    (hl : LexicalClass.blank.Contains l.text) : l.role = .blank := by
  obtain ⟨c, hc, ht⟩ := hl
  have hblank : Delimited ⟨[c], .blank⟩ [] := .blank ((LexicalClass.isBlank_iff c).mpr hc)
  rw [h.eq_of_text_eq hblank ht]

/-- Nothing but a comment begins with two slashes. -/
theorem Delimited.role_of_comment {l : Lexeme} {rest : Text} (h : Delimited l rest)
    (hl : LexicalClass.comment.Contains l.text) : l.role = .comment := by
  obtain ⟨body, ht, hbody⟩ := hl
  have hcomment : Delimited ⟨'/' :: '/' :: body, .comment⟩ [] := .comment hbody (Text.stops_nil _)
  rw [h.eq_of_text_eq hcomment ht]

end Lexeme

theorem Lexeme.delimited_word {t : Text} (ht : LexicalClass.word.Contains t) :
    Delimited ⟨t, .token (wordKind t) none⟩ [] := by
  obtain ⟨c, cs, rfl, hc, hcs⟩ := ht
  exact .word ((LexicalClass.isIdentifierStart_iff c).mpr hc)
    (fun d hd => (LexicalClass.isIdentifierPart_iff d).mpr (hcs d hd)) (Text.stops_nil _)

theorem Lexeme.delimited_number {t : Text} (ht : LexicalClass.number.Contains t) :
    Delimited ⟨t, numberRole t⟩ [] := by
  obtain hdigits | ⟨digits, decimals, rfl, hdigits, hdecimals⟩ := ht
  · exact .whole hdigits (Text.stops_nil _) (by simp)
  · exact .decimal hdigits hdecimals (Text.stops_nil _)

/-- A token is delimited at the end of a source. -/
theorem Denotes.delimited {t : Text} {kind : Kind} {literal : Option Literal}
    (h : Denotes t kind literal) : Lexeme.Delimited ⟨t, .token kind literal⟩ [] := by
  cases h with
  | operator o => exact .operator (by simp) (by simp)
  | string hvalue => exact .string hvalue
  | number ht hvalue =>
    rw [← Lexeme.numberRole_of_some hvalue]
    exact Lexeme.delimited_number ht
  | keyword k =>
    have hk : Lexeme.wordKind k.spelling = .keyword k := by
      simp [Lexeme.wordKind, Keyword.ofSpelling?_spelling]
    rw [← hk]
    exact Lexeme.delimited_word (LexicalClass.contains_spelling k)
  | identifier ht hkeyword =>
    have hword : Lexeme.wordKind t = .identifier := by
      cases hk : Keyword.ofSpelling? t with
      | none => rw [Lexeme.wordKind, hk]
      | some k => exact absurd (Keyword.spelling_of_ofSpelling? hk) (hkeyword k)
    rw [← hword]
    exact Lexeme.delimited_word ht

/-- What denotes a token is cut into this token alone. -/
theorem Denotes.cut_eq {t : Text} {kind : Kind} {literal : Option Literal}
    (h : Denotes t kind literal) : Lexeme.cut t = [⟨t, .token kind literal⟩] :=
  Lexeme.cut_eq_iff.mpr ⟨⟨h.delimited, trivial⟩, List.append_nil t⟩

/-- Kind and literal are functions of the text. -/
theorem Denotes.unique {t : Text} {kind kind' : Kind} {literal literal' : Option Literal}
    (h : Denotes t kind literal) (h' : Denotes t kind' literal') :
    kind = kind' ∧ literal = literal' := by
  have heq := h.delimited.eq_of_text_eq h'.delimited rfl
  cases heq
  exact ⟨rfl, rfl⟩

end LoxFrontEnd
