import LoxFrontEnd.Proofs.Tiling

/-!
# Maximal munch

A scan takes the longest text of any class that it can, and its token is a function of that text
alone (`maximal_munch`). What a text of a class may be is decided by its first character up to
comments, so a lexeme is compared with the texts of one or two classes only.
-/
namespace LoxFrontEnd

namespace Text

/-- Two runs that begin one text and are followed by something else are the same. -/
theorem run_eq_of_cons {p : Char → Bool} {run run' rest t : Text} {c : Char}
    (hrun : ∀ d ∈ run, p d) (hrest : rest.Stops p) (hrun' : ∀ d ∈ run', p d) (hc : p c = false)
    (h : run' ++ c :: t <+: run ++ rest) : run' = run ∧ c :: t <+: rest := by
  obtain ⟨after, hafter⟩ := h
  have hstop : Stops (c :: t ++ after) p := (stops_cons c (t ++ after) p).mpr hc
  rw [List.append_assoc] at hafter
  have htake := congrArg (List.takeWhile p) hafter
  have hdrop := congrArg (List.dropWhile p) hafter
  rw [takeWhile_run hrun hrest, takeWhile_run hrun' hstop] at htake
  rw [dropWhile_run hrun hrest, dropWhile_run hrun' hstop] at hdrop
  exact ⟨htake, after, hdrop⟩

/-- A run that is over is the longest of its class. -/
theorem length_le_of_run {p : Char → Bool} {run rest t : Text} (hrun : ∀ d ∈ run, p d)
    (hrest : rest.Stops p) (ht : ∀ d ∈ t, p d) (h : t <+: run ++ rest) :
    t.length ≤ run.length := by
  obtain ⟨after, hafter⟩ := h
  have htake := congrArg (List.takeWhile p) hafter
  rw [takeWhile_run hrun hrest, List.takeWhile_append_of_pos ht] at htake
  have hlength := congrArg List.length htake
  rw [List.length_append] at hlength
  omega

end Text

/-- A text that means something by itself. -/
def IsLexical (t : Text) : Prop := ∃ k : LexicalClass, k.Contains t

/-- The longest text of any class that a text begins with. -/
structure IsLongest (rest t : Text) : Prop where
  begins : t <+: rest
  isLexical : IsLexical t
  length_le : ∀ u, u <+: rest → IsLexical u → u.length ≤ t.length

namespace LexicalClass

/-- Texts that begin alike are in one family. -/
theorem family_of_begins {k : LexicalClass} {u rest : Text} {c : Char} (hu : k.Contains u)
    (h : u <+: c :: rest) : ∃ v, u = c :: v ∧ v <+: rest ∧ opening c = some k.family := by
  cases u with
  | nil => exact absurd rfl (ne_nil_of_contains hu)
  | cons d v =>
    obtain ⟨rfl, hv⟩ := List.cons_prefix_cons.mp h
    exact ⟨v, rfl, hv, opening_of_contains hu⟩

theorem number_of_begins {k : LexicalClass} {digits rest u : Text} (hdigits : IsDigits digits)
    (hk : k.Contains u) (hu : u <+: digits ++ rest) : number.Contains u := by
  obtain ⟨c, cs, rfl⟩ := List.exists_cons_of_ne_nil hdigits.1
  obtain ⟨v, rfl, -, hopening⟩ := family_of_begins hk hu
  rw [opening_of_isDigit (hdigits.2 c List.mem_cons_self)] at hopening
  cases k <;> cases hopening
  exact hk

end LexicalClass

theorem Denotes.isLexical {t : Text} {kind : Kind} {literal : Option Literal}
    (h : Denotes t kind literal) : IsLexical t := by
  cases h with
  | operator o => exact ⟨.operator, o, rfl⟩
  | string hvalue => exact ⟨.string, _, rfl, hvalue⟩
  | number ht => exact ⟨.number, ht⟩
  | keyword k => exact ⟨.word, LexicalClass.contains_spelling k⟩
  | identifier ht => exact ⟨.word, ht⟩

namespace Lexeme

theorem length_le_of_comment {body rest u : Text} (hbody : '\n' ∉ body)
    (hrest : rest.Stops (· != '\n')) (hk : LexicalClass.comment.Contains u)
    (hu : u <+: '/' :: '/' :: body ++ rest) : u.length ≤ ('/' :: '/' :: body).length := by
  obtain ⟨body', rfl, hbody'⟩ := hk
  have hbegins : body' <+: body ++ rest :=
    (List.cons_prefix_cons.mp (List.cons_prefix_cons.mp hu).2).2
  have hle := Text.length_le_of_run (Text.bne_of_not_mem hbody) hrest
    (Text.bne_of_not_mem hbody') hbegins
  simpa using hle

theorem length_le_of_string {value rest u : Text} (hvalue : '"' ∉ value)
    (hk : LexicalClass.string.Contains u) (hu : u <+: '"' :: value ++ ['"'] ++ rest) :
    u.length ≤ ('"' :: value ++ ['"']).length := by
  obtain ⟨value', rfl, hvalue'⟩ := hk
  have hstop : Text.Stops ('"' :: rest) (· != '"') := by simp
  have hbegins : value' ++ '"' :: [] <+: value ++ '"' :: rest := by
    simpa using (List.cons_prefix_cons.mp hu).2
  obtain ⟨rfl, -⟩ := Text.run_eq_of_cons (Text.bne_of_not_mem hvalue) hstop
    (Text.bne_of_not_mem hvalue') (by simp) hbegins
  exact le_rfl

theorem length_le_of_whole {digits rest u : Text} (hdigits : IsDigits digits)
    (hrest : rest.Stops isDigit) (hpoint : ∀ d ds, rest = '.' :: d :: ds → isDigit d = false)
    (hk : LexicalClass.number.Contains u) (hu : u <+: digits ++ rest) :
    u.length ≤ digits.length := by
  obtain hu' | ⟨digits', decimals', rfl, hdigits', hdecimals'⟩ := hk
  · exact Text.length_le_of_run hdigits.2 hrest hu'.2 hu
  · obtain ⟨rfl, after, rfl⟩ := Text.run_eq_of_cons hdigits.2 hrest hdigits'.2 (by decide) hu
    obtain ⟨d, ds, rfl⟩ := List.exists_cons_of_ne_nil hdecimals'.1
    have hd := hdecimals'.2 d List.mem_cons_self
    rw [hpoint d (ds ++ after) rfl] at hd
    cases hd

theorem length_le_of_decimal {digits decimals rest u : Text} (hdigits : IsDigits digits)
    (hdecimals : IsDigits decimals) (hrest : rest.Stops isDigit)
    (hk : LexicalClass.number.Contains u) (hu : u <+: digits ++ '.' :: decimals ++ rest) :
    u.length ≤ (digits ++ '.' :: decimals).length := by
  have hbegins : u <+: digits ++ '.' :: (decimals ++ rest) := by simpa using hu
  have hstop : Text.Stops ('.' :: (decimals ++ rest)) isDigit := by simp; decide
  rw [List.length_append, List.length_cons]
  obtain hu' | ⟨digits', decimals', rfl, hdigits', hdecimals'⟩ := hk
  · have hle := Text.length_le_of_run hdigits.2 hstop hu'.2 hbegins
    omega
  · obtain ⟨rfl, hpoint⟩ := Text.run_eq_of_cons hdigits.2 hstop hdigits'.2 (by decide) hbegins
    have hle := Text.length_le_of_run hdecimals.2 hrest hdecimals'.2
      (List.cons_prefix_cons.mp hpoint).2
    rw [List.length_append, List.length_cons]
    omega

theorem length_le_of_word {c : Char} {cs rest u : Text} (hcs : ∀ d ∈ cs, isIdentifierPart d)
    (hrest : rest.Stops isIdentifierPart) (hk : LexicalClass.word.Contains u)
    (hu : u <+: c :: cs ++ rest) : u.length ≤ (c :: cs).length := by
  obtain ⟨d, ds, rfl, -, hds⟩ := hk
  have hparts : ∀ e ∈ ds, isIdentifierPart e :=
    fun e he => (LexicalClass.isIdentifierPart_iff e).mpr (hds e he)
  have hle := Text.length_le_of_run hcs hrest hparts (List.cons_prefix_cons.mp hu).2
  simpa using hle

theorem length_le_of_operator {o : Operator} {rest u : Text}
    (hlonger : ∀ d ∈ rest.head?, Operator.ofSpelling? (o.spelling ++ [d]) = none)
    {o' : Operator} (ho' : u = o'.spelling) (hu : u <+: o.spelling ++ rest) :
    u.length ≤ o.spelling.length := by
  by_contra hlt
  obtain ⟨after, hafter⟩ := hu
  obtain ⟨v, rfl⟩ : o.spelling <+: u :=
    List.prefix_of_prefix_length_le (List.prefix_append _ _) ⟨after, hafter⟩ (by omega)
  rw [List.append_assoc, List.append_cancel_left_eq] at hafter
  have hsize : (o.spelling ++ v).length ≤ 2 := by
    rw [ho']
    cases o' <;> decide
  have hpos := List.length_pos_iff.mpr (spelling_ne_nil o)
  obtain ⟨d, rfl⟩ : ∃ d, v = [d] := by
    rw [← List.length_eq_one_iff]
    rw [List.length_append] at hsize hlt
    omega
  have hnone := hlonger d (by rw [← hafter]; rfl)
  rw [ho', Operator.ofSpelling?_spelling] at hnone
  cases hnone

/-- No text of any class goes on longer than what is delimited. -/
theorem Delimited.length_le {l : Lexeme} {rest u : Text} (h : Delimited l rest)
    (hlexical : IsLexical u) (hu : u <+: l.text ++ rest) : u.length ≤ l.text.length := by
  obtain ⟨k, hk⟩ := hlexical
  cases h with
  | blank hc =>
    obtain ⟨v, rfl, -, hopening⟩ := LexicalClass.family_of_begins hk hu
    rw [LexicalClass.opening_of_isBlank hc] at hopening
    cases k <;> cases hopening
    obtain ⟨d, -, hd⟩ := hk
    rw [hd]
    simp
  | comment hbody hrest =>
    obtain ⟨v, -, -, hopening⟩ := LexicalClass.family_of_begins hk hu
    rw [LexicalClass.opening_slash] at hopening
    cases k <;> cases hopening
    · exact length_le_of_comment hbody hrest hk hu
    · obtain ⟨o, rfl⟩ := hk
      cases o <;> simp [Operator.spelling]
  | string hvalue =>
    obtain ⟨v, -, -, hopening⟩ := LexicalClass.family_of_begins hk hu
    rw [LexicalClass.opening_quote] at hopening
    cases k <;> cases hopening
    exact length_le_of_string hvalue hk hu
  | unterminated => exact hu.length_le.trans_eq (by simp)
  | whole hdigits hrest hpoint =>
    exact length_le_of_whole hdigits hrest hpoint (LexicalClass.number_of_begins hdigits hk hu) hu
  | decimal hdigits hdecimals hrest =>
    rw [List.append_assoc] at hu
    have hk := LexicalClass.number_of_begins hdigits hk hu
    rw [← List.append_assoc] at hu
    exact length_le_of_decimal hdigits hdecimals hrest hk hu
  | word hc hcs hrest =>
    obtain ⟨v, -, -, hopening⟩ := LexicalClass.family_of_begins hk hu
    rw [LexicalClass.opening_of_isIdentifierStart hc] at hopening
    cases k <;> cases hopening
    exact length_le_of_word hcs hrest hk hu
  | @operator o rest hlonger hcomment =>
    obtain ⟨c, cs, hspelling⟩ := List.exists_cons_of_ne_nil (spelling_ne_nil o)
    have hbegins : u <+: c :: (cs ++ rest) := by simpa [hspelling] using hu
    obtain ⟨v, rfl, hv, hopening⟩ := LexicalClass.family_of_begins hk hbegins
    rw [LexicalClass.opening_of_spelling hspelling] at hopening
    cases k <;> cases hopening
    · obtain ⟨body, he, -⟩ := hk
      cases he
      obtain ⟨after, hafter⟩ := hv
      cases o <;> cases hspelling
      cases hafter
      exact absurd rfl (hcomment rfl)
    · obtain ⟨o', ho'⟩ := hk
      exact length_le_of_operator hlonger ho' hu
  | unexpected hc =>
    obtain ⟨v, -, -, hopening⟩ := LexicalClass.family_of_begins hk hu
    rw [hc] at hopening
    cases hopening

theorem not_isLexical_of_unterminated {value u : Text} (hvalue : '"' ∉ value)
    (hu : u <+: '"' :: value) : ¬IsLexical u := by
  rintro ⟨k, hk⟩
  obtain ⟨v, rfl, hv, hopening⟩ := LexicalClass.family_of_begins hk hu
  cases k <;> cases hopening
  obtain ⟨value', he, -⟩ := hk
  cases he
  exact hvalue (hv.subset (List.mem_append_right value' List.mem_cons_self))

theorem not_isLexical_of_unexpected {c : Char} {rest u : Text}
    (hc : LexicalClass.opening c = none) (hu : u <+: c :: rest) : ¬IsLexical u := by
  rintro ⟨k, hk⟩
  obtain ⟨v, rfl, -, hopening⟩ := LexicalClass.family_of_begins hk hu
  rw [hc] at hopening
  cases hopening

/-- A lexeme is a text of some class, or there is none where it begins and it is a fault. -/
theorem Delimited.isLexical_or_fault {l : Lexeme} {rest : Text} (h : Delimited l rest) :
    (IsLexical l.text ∧ ∀ f, l.role = .fault f →
      LexicalClass.number.Contains l.text ∧ (Decimal.ofText l.text).nearest? = none) ∨
    ((∀ u, u <+: l.text ++ rest → ¬IsLexical u) ∧
      ((l.role = .fault .unterminatedString ∧ rest = [] ∧ l.text.head? = some '"') ∨
        (l.role = .fault .unexpectedCharacter ∧ ∃ c, l.text = [c] ∧ c ≠ '"'))) := by
  have hmeans := h.means
  cases hrole : l.role with
  | token kind literal =>
    rw [hrole] at hmeans
    exact .inl ⟨hmeans.isLexical, by simp⟩
  | blank =>
    rw [hrole] at hmeans
    exact .inl ⟨⟨.blank, hmeans⟩, by simp⟩
  | comment =>
    rw [hrole] at hmeans
    exact .inl ⟨⟨.comment, hmeans.1⟩, by simp⟩
  | fault f =>
    rw [hrole] at hmeans
    cases f with
    | numberTooLarge => exact .inl ⟨⟨.number, hmeans.1⟩, fun _ _ => hmeans⟩
    | unterminatedString =>
      obtain ⟨⟨value, ht, hvalue⟩, rfl⟩ := hmeans
      refine .inr ⟨?_, .inl ⟨rfl, rfl, by simp [ht]⟩⟩
      intro u hu
      rw [ht, List.append_nil] at hu
      exact not_isLexical_of_unterminated hvalue hu
    | unexpectedCharacter =>
      obtain ⟨c, ht, hc⟩ := hmeans
      refine .inr ⟨?_, .inr ⟨rfl, c, ht, ?_⟩⟩
      · intro u hu
        rw [ht] at hu
        exact not_isLexical_of_unexpected hc hu
      · rintro rfl
        exact absurd hc (by decide)

end Lexeme

/-- What a scan finds where the text `rest` is left over. The token is a function of the text that
it takes. -/
structure IsMunch (rest : Text) (e : Element) : Prop where
  ne_nil : e.lexeme.text ≠ []
  begins : e.lexeme.text <+: rest
  longest : (∃ u, u <+: rest ∧ IsLexical u) → IsLongest rest e.lexeme.text
  token : ∀ t, e.token? = some t ↔
    t.lexeme = e.lexeme.text ∧ t.line = e.line ∧ Denotes e.lexeme.text t.kind t.literal
  unique : ∀ {kind kind' : Kind} {literal literal' : Option Literal},
    Denotes e.lexeme.text kind literal → Denotes e.lexeme.text kind' literal' →
      kind = kind' ∧ literal = literal'
  tooLarge : (∃ u, u <+: rest ∧ IsLexical u) → ∀ d, e.diagnostic? = some d →
    LexicalClass.number.Contains e.lexeme.text ∧ (Decimal.ofText e.lexeme.text).nearest? = none
  fault : (∀ u, u <+: rest → ¬IsLexical u) → e.token? = none ∧
    ∃ d, e.diagnostic? = some d ∧ d.span = some e.span ∧
      if rest.head? = some '"'
      then e.lexeme.text = rest ∧ d.message = "Unterminated string.".toList
      else e.lexeme.text = rest.take 1 ∧ d.message = "Unexpected character.".toList

theorem isMunch_of_mem_scan {source : Text} {e : Element} (h : e ∈ scan source) :
    IsMunch (source.drop e.start) e := by
  have hdelimited := delimited_of_mem_scan h
  rw [drop_start_of_mem_scan h]
  generalize source.drop e.stop = rest at hdelimited
  have hbegins : e.lexeme.text <+: e.lexeme.text ++ rest := List.prefix_append _ _
  obtain ⟨hlexical, hfault⟩ | ⟨hnone, hfault⟩ := hdelimited.isLexical_or_fault
  · refine ⟨hdelimited.text_ne_nil, hbegins, ?_, Element.token?_eq_some_iff hdelimited,
      Denotes.unique, ?_, ?_⟩
    · intro _
      exact ⟨hbegins, hlexical, fun u hu hother => hdelimited.length_le hother hu⟩
    · intro _ d hd
      cases hrole : e.lexeme.role with
      | fault f => exact hfault f hrole
      | _ => simp [Element.diagnostic?, hrole] at hd
    · intro hnone
      exact absurd hlexical (hnone _ hbegins)
  · have habsurd : ¬∃ u, u <+: e.lexeme.text ++ rest ∧ IsLexical u := by
      rintro ⟨u, hu, hlexical⟩
      exact hnone u hu hlexical
    refine ⟨hdelimited.text_ne_nil, hbegins, fun hsome => absurd hsome habsurd,
      Element.token?_eq_some_iff hdelimited, Denotes.unique, fun hsome => absurd hsome habsurd, ?_⟩
    intro _
    obtain ⟨hrole, rfl, hhead⟩ | ⟨hrole, c, ht, hc⟩ := hfault
    · refine ⟨by simp [Element.token?, hrole], _, by rw [Element.diagnostic?, hrole], rfl, ?_⟩
      rw [List.append_nil, if_pos hhead]
      exact ⟨rfl, rfl⟩
    · refine ⟨by simp [Element.token?, hrole], _, by rw [Element.diagnostic?, hrole], rfl, ?_⟩
      rw [ht, List.singleton_append, if_neg (by simpa using hc)]
      exact ⟨rfl, rfl⟩

/-- A scan goes through the whole source, and wherever it stands it takes the longest text of any
class. -/
theorem maximal_munch (source : Text) :
    Span.Consecutive 0 source.length ((scan source).map Element.span) ∧
      ∀ e ∈ scan source, IsMunch (source.drop e.start) e :=
  ⟨consecutive_scan source, fun _ he => isMunch_of_mem_scan he⟩

theorem maximal_munch_equals :
    ∃ e ∈ scan "===".toList, e.lexeme.text = ['=', '='] ∧ IsMunch "===".toList e := by
  have hlong : Lexeme.Delimited ⟨['=', '='], .token (.operator .equalEqual) none⟩ ['='] :=
    .operator (o := .equalEqual) (by simp; decide) (by simp)
  have hshort : Lexeme.Delimited ⟨['='], .token (.operator .equal) none⟩ [] :=
    .operator (o := .equal) (by simp) (by simp)
  have hcut : Lexeme.cut "===".toList =
      [⟨['=', '='], .token (.operator .equalEqual) none⟩,
        ⟨['='], .token (.operator .equal) none⟩] :=
    Lexeme.cut_eq_iff.mpr ⟨⟨hlong, hshort, trivial⟩, rfl⟩
  have hmem : ⟨⟨['=', '='], .token (.operator .equalEqual) none⟩, 0, 1⟩ ∈ scan "===".toList := by
    rw [scan, hcut]
    exact List.mem_cons_self
  exact ⟨_, hmem, rfl, (maximal_munch "===".toList).2 _ hmem⟩

end LoxFrontEnd
