import LoxFrontEnd.Proofs.LexicalClass

/-!
# Delimited lexemes

Whether a lexeme ends where it does hangs on the text after it. `Lexeme.Delimited l rest` says that
`l` is a lexeme in front of `rest`, and `takeFirst` takes off the only delimited lexeme that a text
begins with (`takeFirst_delimited`, `Delimited.takeFirst_eq`).
-/
namespace LoxFrontEnd

/-- A run of characters of a class is over: the next character, if there is one, is of no use. -/
def Text.Stops (rest : Text) (p : Char → Bool) : Prop := ∀ c ∈ rest.head?, p c = false

namespace Text

@[simp] theorem stops_nil (p : Char → Bool) : Stops [] p := by simp [Stops]

@[simp] theorem stops_cons (c : Char) (cs : Text) (p : Char → Bool) :
    Stops (c :: cs) p ↔ p c = false := by simp [Stops]

theorem bne_of_not_mem {c : Char} {t : Text} (h : c ∉ t) : ∀ d ∈ t, (d != c) = true := by
  intro d hd
  simpa using ne_of_mem_of_not_mem hd h

theorem stops_dropWhile (p : Char → Bool) (t : Text) : Stops (t.dropWhile p) p := by
  intro c hc
  have h := List.head?_dropWhile_not p t
  rw [Option.mem_def.mp hc] at h
  exact h

theorem takeWhile_run {p : Char → Bool} {run rest : Text} (hrun : ∀ c ∈ run, p c)
    (hrest : rest.Stops p) : (run ++ rest).takeWhile p = run := by
  rw [List.takeWhile_append_of_pos hrun]
  cases rest with
  | nil => simp
  | cons c cs => simp [(stops_cons c cs p).mp hrest]

theorem dropWhile_run {p : Char → Bool} {run rest : Text} (hrun : ∀ c ∈ run, p c)
    (hrest : rest.Stops p) : (run ++ rest).dropWhile p = rest := by
  rw [List.dropWhile_append_of_pos hrun]
  cases rest with
  | nil => simp
  | cons c cs => simp [(stops_cons c cs p).mp hrest]

end Text

namespace Lexeme

/-- What a lexeme can be in front of a text. -/
inductive Delimited : Lexeme → Text → Prop
  | blank {c : Char} {rest : Text} (hc : isBlank c) : Delimited ⟨[c], .blank⟩ rest
  | comment {body rest : Text} (hbody : '\n' ∉ body) (hrest : rest.Stops (· != '\n')) :
    Delimited ⟨'/' :: '/' :: body, .comment⟩ rest
  | string {value rest : Text} (hvalue : '"' ∉ value) :
    Delimited ⟨'"' :: value ++ ['"'], .token .string (some (.string value))⟩ rest
  | unterminated {value : Text} (hvalue : '"' ∉ value) :
    Delimited ⟨'"' :: value, .fault .unterminatedString⟩ []
  | whole {digits rest : Text} (hdigits : IsDigits digits) (hrest : rest.Stops isDigit)
      (hpoint : ∀ d ds, rest = '.' :: d :: ds → isDigit d = false) :
    Delimited ⟨digits, numberRole digits⟩ rest
  | decimal {digits decimals rest : Text} (hdigits : IsDigits digits)
      (hdecimals : IsDigits decimals) (hrest : rest.Stops isDigit) :
    Delimited ⟨digits ++ '.' :: decimals, numberRole (digits ++ '.' :: decimals)⟩ rest
  | word {c : Char} {cs rest : Text} (hc : isIdentifierStart c) (hcs : ∀ d ∈ cs, isIdentifierPart d)
      (hrest : rest.Stops isIdentifierPart) :
    Delimited ⟨c :: cs, .token (wordKind (c :: cs)) none⟩ rest
  | operator {o : Operator} {rest : Text}
      (hlonger : ∀ d ∈ rest.head?, Operator.ofSpelling? (o.spelling ++ [d]) = none)
      (hcomment : o = .slash → rest.head? ≠ some '/') :
    Delimited ⟨o.spelling, .token (.operator o) none⟩ rest
  | unexpected {c : Char} {rest : Text} (hc : LexicalClass.opening c = none) :
    Delimited ⟨[c], .fault .unexpectedCharacter⟩ rest

theorem Delimited.text_ne_nil {l : Lexeme} {rest : Text} (h : Delimited l rest) : l.text ≠ [] := by
  cases h with
  | whole hdigits => exact hdigits.1
  | @operator o => cases o <;> simp [Operator.spelling]
  | _ => simp

/-- The first character decides which kind of lexeme is taken. -/
theorem takeFirst_eq (c : Char) (cs : Text) :
    takeFirst c cs = match LexicalClass.opening c with
      | some .blank => (⟨[c], .blank⟩, cs)
      | some .string => takeString cs
      | some .number => takeNumber c cs
      | some .word => takeWord c cs
      | _ => if c = '/' ∧ cs.head? = some '/' then takeComment cs else takeOperator c cs := by
  unfold takeFirst LexicalClass.opening
  split_ifs <;> rfl

theorem takeComment_delimited {cs : Text} (hcs : cs.head? = some '/') :
    Delimited (takeComment cs).1 (takeComment cs).2 := by
  obtain ⟨ds, rfl⟩ : ∃ ds, cs = '/' :: ds := by
    cases cs with
    | nil => simp at hcs
    | cons d ds => exact ⟨ds, by simpa using hcs⟩
  have hbody : '\n' ∉ ds.takeWhile (· != '\n') := by
    intro h
    simpa using List.mem_takeWhile_imp h
  simpa [takeComment] using Delimited.comment hbody (Text.stops_dropWhile (· != '\n') ds)

theorem takeString_delimited (cs : Text) :
    Delimited (takeString cs).1 (takeString cs).2 := by
  have hvalue : '"' ∉ cs.takeWhile (· != '"') := by
    intro h
    simpa using List.mem_takeWhile_imp h
  have hquote := Text.stops_dropWhile (· != '"') cs
  unfold takeString
  split
  · exact .unterminated hvalue
  · rename_i quote rest hdrop
    rw [hdrop] at hquote
    obtain rfl : quote = '"' := by simpa using hquote
    exact .string hvalue

theorem fraction_of_no_digit {rest : Text}
    (h : ∀ d ds, rest = '.' :: d :: ds → isDigit d = false) : fraction rest = [] := by
  unfold fraction
  split
  · rename_i point d ds
    refine if_neg ?_
    rintro ⟨rfl, hd⟩
    simp [h d ds rfl] at hd
  · rfl

theorem fraction_of_digits {decimals rest : Text} (hdecimals : IsDigits decimals)
    (hrest : rest.Stops isDigit) : fraction ('.' :: (decimals ++ rest)) = '.' :: decimals := by
  obtain ⟨d, ds, rfl⟩ := List.exists_cons_of_ne_nil hdecimals.1
  have hds : ∀ c ∈ ds, isDigit c := fun c hc => hdecimals.2 c (List.mem_cons_of_mem d hc)
  simp [fraction, hdecimals.2 d List.mem_cons_self, Text.takeWhile_run hds hrest]

/-- A point and digits come next, or else no fraction does. -/
theorem exists_fraction (rest : Text) :
    (∀ d ds, rest = '.' :: d :: ds → isDigit d = false) ∨
      ∃ decimals after : Text, rest = '.' :: (decimals ++ after) ∧ IsDigits decimals ∧
        after.Stops isDigit := by
  by_cases h : ∃ d ds, rest = '.' :: d :: ds ∧ isDigit d
  · obtain ⟨d, ds, rfl, hd⟩ := h
    refine .inr ⟨d :: ds.takeWhile isDigit, ds.dropWhile isDigit, by simp, ⟨by simp, ?_⟩,
      Text.stops_dropWhile isDigit ds⟩
    intro c hc
    obtain rfl | hc := List.mem_cons.mp hc
    · exact hd
    · exact List.mem_takeWhile_imp hc
  · left
    intro d ds he
    by_contra hd
    exact h ⟨d, ds, he, by simpa using hd⟩

theorem takeNumber_delimited {c : Char} (hc : isDigit c) (cs : Text) :
    Delimited (takeNumber c cs).1 (takeNumber c cs).2 := by
  have hdigits : IsDigits (c :: cs.takeWhile isDigit) := by
    refine ⟨by simp, ?_⟩
    intro d hd
    obtain rfl | hd := List.mem_cons.mp hd
    · exact hc
    · exact List.mem_takeWhile_imp hd
  unfold takeNumber
  obtain hpoint | ⟨decimals, after, hrest, hdecimals, hafter⟩ :=
    exists_fraction (cs.dropWhile isDigit)
  · simp only [fraction_of_no_digit hpoint, List.append_nil, List.length_nil, List.drop_zero]
    exact .whole hdigits (Text.stops_dropWhile isDigit cs) hpoint
  · simp only [hrest, fraction_of_digits hdecimals hafter, List.length_cons,
      List.drop_succ_cons, List.drop_left]
    exact .decimal hdigits hdecimals hafter

theorem takeWord_delimited {c : Char} (hc : isIdentifierStart c) (cs : Text) :
    Delimited (takeWord c cs).1 (takeWord c cs).2 :=
  .word hc (fun _ hd => List.mem_takeWhile_imp hd) (Text.stops_dropWhile isIdentifierPart cs)

theorem spelling_ne_nil (o : Operator) : o.spelling ≠ [] := by cases o <;> simp [Operator.spelling]

theorem ofSpelling?_eq_none_of_long {t : Text} (h : 2 < t.length) :
    Operator.ofSpelling? t = none := by
  rw [Option.eq_none_iff_forall_ne_some]
  intro o ho
  have hlength : t.length ≤ 2 := by
    rw [← Operator.spelling_of_ofSpelling? ho]
    cases o <;> simp [Operator.spelling]
  omega

/-- An operator of two characters begins with one of a single character. -/
theorem ofSpelling?_cons_eq_none {c : Char} (h : Operator.ofSpelling? [c] = none) (cs : Text) :
    Operator.ofSpelling? (c :: cs) = none := by
  rw [Option.eq_none_iff_forall_ne_some]
  intro o ho
  have hspelling := Operator.spelling_of_ofSpelling? ho
  cases o <;> cases hspelling <;> exact absurd h (by decide)

theorem takeOperator_delimited {c : Char} {cs : Text}
    (hc : LexicalClass.opening c = some .operator ∨ LexicalClass.opening c = none)
    (hcomment : ¬(c = '/' ∧ cs.head? = some '/')) :
    Delimited (takeOperator c cs).1 (takeOperator c cs).2 := by
  unfold takeOperator
  split
  · rename_i o hlong
    have hspelling := Operator.spelling_of_ofSpelling? hlong
    rw [← hspelling]
    refine .operator ?_ ?_
    · intro d hd
      apply ofSpelling?_eq_none_of_long
      cases cs with
      | nil => simp at hd
      | cons e es => simp [hspelling]
    · rintro rfl hhead
      cases cs with
      | nil => simp at hhead
      | cons e es => simp [Operator.spelling] at hspelling
  · rename_i o hlong hshort
    have hspelling := Operator.spelling_of_ofSpelling? hshort
    rw [← hspelling]
    refine .operator ?_ ?_
    · intro d hd
      cases cs with
      | nil => simp at hd
      | cons e es =>
        obtain rfl : e = d := by simpa using hd
        simpa [hspelling] using hlong
    · rintro rfl hhead
      obtain rfl : '/' = c := by simpa [Operator.spelling] using hspelling
      exact hcomment ⟨rfl, hhead⟩
  · rename_i hlong hshort
    obtain hc | hc := hc
    · obtain ⟨o, ho⟩ := LexicalClass.opening_eq_some hc
      simp [ho] at hshort
    · exact .unexpected hc

/-- What is taken off a text is delimited by the rest. -/
theorem takeFirst_delimited (c : Char) (cs : Text) :
    Delimited (takeFirst c cs).1 (takeFirst c cs).2 := by
  rw [takeFirst_eq]
  cases hc : LexicalClass.opening c with
  | none =>
    dsimp only
    split_ifs with hcomment
    · simp [hcomment.1] at hc
    · exact takeOperator_delimited (.inr hc) hcomment
  | some k =>
    have hk := LexicalClass.opening_eq_some hc
    cases k with
    | blank => exact .blank hk
    | comment => exact hk.elim
    | operator =>
      dsimp only
      split_ifs with hcomment
      · exact takeComment_delimited hcomment.2
      · exact takeOperator_delimited (.inl hc) hcomment
    | string => exact takeString_delimited cs
    | number => exact takeNumber_delimited hk cs
    | word => exact takeWord_delimited hk cs

theorem takeString_run {value : Text} (hvalue : '"' ∉ value) (rest : Text) :
    takeString (value ++ '"' :: rest) =
      (⟨'"' :: value ++ ['"'], .token .string (some (.string value))⟩, rest) := by
  have hrun := Text.bne_of_not_mem hvalue
  have hstop : Text.Stops ('"' :: rest) (· != '"') := by simp
  simp [takeString, Text.takeWhile_run hrun hstop, Text.dropWhile_run hrun hstop]

theorem takeString_unterminated {value : Text} (hvalue : '"' ∉ value) :
    takeString value = (⟨'"' :: value, .fault .unterminatedString⟩, []) := by
  have hrun := Text.bne_of_not_mem hvalue
  simp [takeString, List.takeWhile_eq_self_iff.mpr hrun, List.dropWhile_eq_nil_iff.mpr hrun]

theorem takeComment_run {body rest : Text} (hbody : '\n' ∉ body) (hrest : rest.Stops (· != '\n')) :
    takeComment ('/' :: (body ++ rest)) = (⟨'/' :: '/' :: body, .comment⟩, rest) := by
  have hrun := Text.bne_of_not_mem hbody
  simp [takeComment, Text.takeWhile_run hrun hrest, Text.dropWhile_run hrun hrest]

theorem takeNumber_whole {c : Char} {ds rest : Text} (hds : ∀ d ∈ ds, isDigit d)
    (hrest : rest.Stops isDigit) (hpoint : ∀ d es, rest = '.' :: d :: es → isDigit d = false) :
    takeNumber c (ds ++ rest) = (⟨c :: ds, numberRole (c :: ds)⟩, rest) := by
  simp [takeNumber, Text.takeWhile_run hds hrest, Text.dropWhile_run hds hrest,
    fraction_of_no_digit hpoint]

theorem takeNumber_decimal {c : Char} {ds decimals rest : Text} (hds : ∀ d ∈ ds, isDigit d)
    (hdecimals : IsDigits decimals) (hrest : rest.Stops isDigit) :
    takeNumber c (ds ++ '.' :: (decimals ++ rest)) =
      (⟨c :: ds ++ '.' :: decimals, numberRole (c :: ds ++ '.' :: decimals)⟩, rest) := by
  have hstop : Text.Stops ('.' :: (decimals ++ rest)) isDigit := by simp; decide
  simp [takeNumber, Text.takeWhile_run hds hstop, Text.dropWhile_run hds hstop,
    fraction_of_digits hdecimals hrest]

theorem takeOperator_spelling {o : Operator} {c : Char} {cs rest : Text}
    (ho : o.spelling ++ rest = c :: cs)
    (hlonger : ∀ d ∈ rest.head?, Operator.ofSpelling? (o.spelling ++ [d]) = none) :
    takeOperator c cs = (⟨o.spelling, .token (.operator o) none⟩, rest) := by
  have hself := Operator.ofSpelling?_spelling o
  have hsize : (∃ a, o.spelling = [a]) ∨ ∃ a b, o.spelling = [a, b] := by
    cases o <;> simp [Operator.spelling]
  obtain ⟨a, hs⟩ | ⟨a, b, hs⟩ := hsize
  · rw [hs] at ho hself hlonger
    cases ho
    cases rest with
    | nil => simp [takeOperator, hself, hs]
    | cons d ds =>
      have hnone : Operator.ofSpelling? [c, d] = none := hlonger d rfl
      simp [takeOperator, hself, hnone, hs]
  · rw [hs] at ho hself
    cases ho
    simp [takeOperator, hself, hs]

/-- Operators of two characters end with an equals sign. -/
theorem ofSpelling?_pair_eq_none {d : Char} (hd : d ≠ '=') (c : Char) :
    Operator.ofSpelling? [c, d] = none := by
  rw [Option.eq_none_iff_forall_ne_some]
  intro o ho
  have hspelling := Operator.spelling_of_ofSpelling? ho
  cases o <;> cases hspelling <;> exact hd rfl

theorem takeOperator_short {o : Operator} {c : Char} {cs : Text} (ho : o.spelling = [c])
    (hlonger : ∀ d ∈ cs.head?, Operator.ofSpelling? [c, d] = none) :
    takeOperator c cs = (⟨[c], .token (.operator o) none⟩, cs) := by
  have ht : o.spelling ++ cs = c :: cs := by rw [ho]; rfl
  have hnone : ∀ d ∈ cs.head?, Operator.ofSpelling? (o.spelling ++ [d]) = none := by rwa [ho]
  rw [takeOperator_spelling ht hnone, ho]

theorem takeOperator_long {o : Operator} {c d : Char} (ho : o.spelling = [c, d]) (cs : Text) :
    takeOperator c (d :: cs) = (⟨[c, d], .token (.operator o) none⟩, cs) := by
  have ht : o.spelling ++ cs = c :: d :: cs := by rw [ho]; rfl
  have hnone : ∀ e ∈ cs.head?, Operator.ofSpelling? (o.spelling ++ [e]) = none := by
    intro e _
    rw [ho]
    exact ofSpelling?_eq_none_of_long (by simp)
  rw [takeOperator_spelling ht hnone, ho]

theorem takeOperator_unexpected {c : Char} (hc : LexicalClass.opening c = none) (cs : Text) :
    takeOperator c cs = (⟨[c], .fault .unexpectedCharacter⟩, cs) := by
  have hnone : Operator.ofSpelling? [c] = none := by
    rw [Option.eq_none_iff_forall_ne_some]
    intro o ho
    rw [LexicalClass.opening_of_spelling (Operator.spelling_of_ofSpelling? ho)] at hc
    cases hc
  simp [takeOperator, hnone, ofSpelling?_cons_eq_none hnone]

/-- A delimited lexeme is what is taken off the text that begins with it. -/
theorem Delimited.takeFirst_eq {l : Lexeme} {rest : Text} (h : Delimited l rest) {c : Char}
    {cs : Text} (ht : l.text ++ rest = c :: cs) : takeFirst c cs = (l, rest) := by
  rw [Lexeme.takeFirst_eq]
  cases h with
  | blank hc =>
    cases ht
    rw [LexicalClass.opening_of_isBlank hc]
    rfl
  | comment hbody hrest =>
    cases ht
    rw [LexicalClass.opening_slash]
    simpa using takeComment_run hbody hrest
  | string hvalue =>
    cases ht
    rw [LexicalClass.opening_quote]
    simpa using takeString_run hvalue rest
  | unterminated hvalue =>
    cases ht
    rw [LexicalClass.opening_quote]
    simpa using takeString_unterminated hvalue
  | whole hdigits hrest hpoint =>
    obtain ⟨d, ds, rfl⟩ := List.exists_cons_of_ne_nil hdigits.1
    cases ht
    rw [LexicalClass.opening_of_isDigit (hdigits.2 c List.mem_cons_self)]
    exact takeNumber_whole (fun e he => hdigits.2 e (List.mem_cons_of_mem c he)) hrest hpoint
  | decimal hdigits hdecimals hrest =>
    obtain ⟨d, ds, rfl⟩ := List.exists_cons_of_ne_nil hdigits.1
    cases ht
    rw [LexicalClass.opening_of_isDigit (hdigits.2 c List.mem_cons_self)]
    simpa using takeNumber_decimal (fun e he => hdigits.2 e (List.mem_cons_of_mem c he))
      hdecimals hrest
  | word hc hcs hrest =>
    cases ht
    rw [LexicalClass.opening_of_isIdentifierStart hc]
    simp [takeWord, Text.takeWhile_run hcs hrest, Text.dropWhile_run hcs hrest]
  | @operator o rest hlonger hcomment =>
    have hnot : ¬(c = '/' ∧ cs.head? = some '/') := by
      rintro ⟨rfl, hhead⟩
      cases o <;> cases ht
      exact hcomment rfl hhead
    obtain ⟨d, ds, hs⟩ := List.exists_cons_of_ne_nil (spelling_ne_nil o)
    obtain rfl : d = c := by simp_all
    simp only [LexicalClass.opening_of_spelling hs, if_neg hnot]
    exact takeOperator_spelling ht hlonger
  | @unexpected d rest hc =>
    obtain ⟨rfl, rfl⟩ : d = c ∧ rest = cs := by simpa using ht
    have hnot : ¬(d = '/' ∧ rest.head? = some '/') := by
      rintro ⟨rfl, -⟩
      simp at hc
    simp only [hc, if_neg hnot]
    exact takeOperator_unexpected hc rest

end Lexeme

end LoxFrontEnd
