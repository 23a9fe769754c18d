import LoxFrontEnd.Proofs.Respelling
import LoxFrontEnd.Proofs.Writing
import LoxFrontEnd.Reporter.Collection

/-!
# Printed tokens

A string is printed as it is, with its spaces and line feeds, so the lines of the output are not the
tokens. Read from the left they can be told apart all the same. No name of a kind holds a space, and
the name says what ends the lexeme: the second quote for a string, a space for everything else. So
where the first token ends is known, and then the others (`print_inj`). What completed runs have
written is the same exactly if they have the same tokens, up to the lines (`printed_eq_iff`).
-/
namespace LoxFrontEnd

/-- Different texts are written by different bytes. -/
theorem Utf8.encode_injective : Function.Injective encode := by
  intro s t h
  have hbytes : s.utf8Encode = t.utf8Encode := congrArg List.toByteArray h
  have hdecoded := congrArg ByteArray.utf8Decode? hbytes
  rw [List.utf8Decode?_utf8Encode, List.utf8Decode?_utf8Encode] at hdecoded
  simpa using hdecoded

/-- A text says what stands in front of its first mark, and what stands behind it. -/
theorem Text.eq_of_append_mark {mark : Char} {s t rest rest' : Text} (hs : mark ∉ s)
    (ht : mark ∉ t) (h : s ++ mark :: rest = t ++ mark :: rest') : s = t ∧ rest = rest' := by
  have hstop (rest : Text) : Text.Stops (mark :: rest) (· != mark) := by simp
  have htake := congrArg (List.takeWhile (· != mark)) h
  rw [takeWhile_run (bne_of_not_mem hs) (hstop rest),
    takeWhile_run (bne_of_not_mem ht) (hstop rest')] at htake
  subst htake
  exact ⟨rfl, (List.cons.inj (List.append_cancel_left h)).2⟩

namespace Kind

theorem name_injective : Function.Injective name := by
  intro k k' h
  have hread := congrArg ofName? h
  rw [ofName?_name, ofName?_name] at hread
  exact Option.some.inj hread

theorem space_not_mem_name (k : Kind) : ' ' ∉ k.name.toList := by
  have hall : all.all (fun k => !k.name.toList.contains ' ') = true := by decide +kernel
  simpa using List.all_eq_true.mp hall k k.mem_all

end Kind

namespace LexicalClass

theorem isBlank_of_mem_number {t : Text} (h : number.Contains t) {c : Char} (hc : c ∈ t) :
    isBlank c = false := by
  have hdigit {digits : Text} (hdigits : IsDigits digits) (hc : c ∈ digits) :
      isBlank c = false := by
    obtain ⟨hblank, -⟩ :=
      not_isBlank_and_ne_quote (p := isDigit) (by decide) (by decide) (hdigits.2 c hc)
    simpa using hblank
  obtain hdigits | ⟨digits, decimals, rfl, hdigits, hdecimals⟩ := h
  · exact hdigit hdigits hc
  · obtain hc | hc := List.mem_append.mp hc
    · exact hdigit hdigits hc
    · obtain rfl | hc := List.mem_cons.mp hc
      · decide
      · exact hdigit hdecimals hc

theorem isBlank_of_mem_word {t : Text} (h : word.Contains t) {c : Char} (hc : c ∈ t) :
    isBlank c = false := by
  obtain ⟨d, ds, rfl, hd, hds⟩ := h
  have hpart : isIdentifierPart c := by
    rw [isIdentifierPart_iff]
    obtain rfl | hc := List.mem_cons.mp hc
    · exact hd.imp_right .inr
    · exact hds c hc
  obtain ⟨hblank, -⟩ :=
    not_isBlank_and_ne_quote (p := isIdentifierPart) (by decide) (by decide) hpart
  simpa using hblank

end LexicalClass

namespace Denotes

variable {t u : Text} {kind : Kind} {literal literal' : Option Literal}

/-- Only strings hold blanks. -/
theorem isBlank_of_mem (h : Denotes t kind literal) (hkind : kind ≠ .string) {c : Char}
    (hc : c ∈ t) : isBlank c = false := by
  cases h with
  | operator o => exact Lexeme.isBlank_of_mem_spelling hc
  | string _ => exact absurd rfl hkind
  | number ht => exact LexicalClass.isBlank_of_mem_number ht hc
  | keyword k => exact LexicalClass.isBlank_of_mem_word (LexicalClass.contains_spelling k) hc
  | identifier ht => exact LexicalClass.isBlank_of_mem_word ht hc

theorem space_not_mem (h : Denotes t kind literal) (hkind : kind ≠ .string) : ' ' ∉ t := by
  intro hspace
  exact absurd (h.isBlank_of_mem hkind hspace) (by decide)

/-- If the kind is known, so is where a lexeme ends that a space follows. -/
theorem eq_of_append_space (ht : Denotes t kind literal) (hu : Denotes u kind literal')
    {rest rest' : Text} (h : t ++ ' ' :: rest = u ++ ' ' :: rest') : t = u := by
  by_cases hkind : kind = .string
  · subst hkind
    cases ht with
    | string hvalue =>
      cases hu with
      | string hvalue' =>
        simp only [List.cons_append, List.append_assoc, List.nil_append] at h
        rw [(Text.eq_of_append_mark hvalue hvalue' (List.cons.inj h).2).1]
  · exact (Text.eq_of_append_mark (ht.space_not_mem hkind) (hu.space_not_mem hkind) h).1

end Denotes

namespace Token

theorem text_eq_of_signature {t u : Token} (h : t.signature = u.signature) : t.text = u.text := by
  obtain ⟨kind, lexeme, literal, line⟩ := t
  obtain ⟨kind', lexeme', literal', line'⟩ := u
  cases h
  rfl

theorem exists_text_append (t : Token) (rest : Text) :
    ∃ rest', t.text ++ rest = t.kind.name.toList ++ ' ' :: (t.lexeme ++ ' ' :: rest') :=
  ⟨_, by rw [text, List.append_assoc, List.append_assoc]; rfl⟩

/-- The first token in print is known, and where it ends. -/
theorem text_append_inj {s s' : Text} {t u : Token} (ht : t ∈ tokens s) (hu : u ∈ tokens s')
    {rest rest' : Text} (h : t.text ++ rest = u.text ++ rest') :
    t.signature = u.signature ∧ rest = rest' := by
  have hsignature : t.signature = u.signature := by
    obtain ⟨after, hafter⟩ := t.exists_text_append rest
    obtain ⟨after', hafter'⟩ := u.exists_text_append rest'
    rw [hafter, hafter'] at h
    obtain ⟨hname, hlexeme⟩ :=
      Text.eq_of_append_mark t.kind.space_not_mem_name u.kind.space_not_mem_name h
    have hkind : t.kind = u.kind := Kind.name_injective (String.toList_injective hname)
    obtain ht | ht := denotes_or_eof ht <;> obtain hu | hu := denotes_or_eof hu
    · rw [hkind] at ht
      have heq : t.lexeme = u.lexeme := ht.eq_of_append_space hu hlexeme
      rw [heq] at ht
      exact Prod.ext hkind (Prod.ext heq (ht.unique hu).2)
    · exact absurd (hkind.trans (congrArg Prod.fst hu)) ht.kind_ne_eof
    · exact absurd (hkind.symm.trans (congrArg Prod.fst ht)) hu.kind_ne_eof
    · rw [ht, hu]
  rw [text_eq_of_signature hsignature] at h
  exact ⟨hsignature, List.append_cancel_left h⟩

end Token

theorem printTokens_cons (t : Token) (ts : List Token) :
    printTokens (t :: ts) = t.text ++ '\n' :: printTokens ts := by
  simp [printTokens]

/-- Tokens are known, up to their lines, when they are printed one after the other. -/
theorem print_inj {s s' : Text} {ts us : List Token} (hts : ∀ t ∈ ts, t ∈ tokens s)
    (hus : ∀ u ∈ us, u ∈ tokens s') (h : printTokens ts = printTokens us) :
    ts.map Token.signature = us.map Token.signature := by
  induction ts generalizing us with
  | nil =>
    cases us with
    | nil => rfl
    | cons u us => simp [printTokens] at h
  | cons t ts ih =>
    cases us with
    | nil => simp [printTokens] at h
    | cons u us =>
      obtain ⟨ht, hts⟩ := List.forall_mem_cons.mp hts
      obtain ⟨hu, hus⟩ := List.forall_mem_cons.mp hus
      rw [printTokens_cons, printTokens_cons] at h
      obtain ⟨hfirst, hrest⟩ := Token.text_append_inj ht hu h
      rw [List.map_cons, List.map_cons, hfirst, ih hts hus (List.cons.inj hrest).2]

/-- Lines are not printed. -/
theorem print_eq_of_signature {ts us : List Token}
    (h : ts.map Token.signature = us.map Token.signature) : printTokens ts = printTokens us := by
  have hprint (ts : List Token) : printTokens ts =
      (ts.map Token.signature).flatMap fun (kind, lexeme, literal) =>
        Token.text ⟨kind, lexeme, literal, 0⟩ ++ ['\n'] := by
    rw [List.flatMap_map]
    rfl
  rw [hprint, hprint, h]

/-- What is written in two runs that complete is the same exactly if the two sources have the same
tokens: as many, of the same kinds, with the same lexemes and the same literals. -/
theorem printed_eq_iff {ρ ρ' : Type} [Reporter ρ] [Reporter ρ'] {source source' : Text} {r : ρ}
    {r' : ρ'} {output output' : Channel} {outcome outcome' : Outcome}
    (hrun : (run source r output).result = .ok outcome)
    (hrun' : (run source' r' output').result = .ok outcome') {written written' : List UInt8}
    (hwritten : (run source r output).output.kept.toList = output.kept.toList ++ written)
    (hwritten' : (run source' r' output').output.kept.toList = output'.kept.toList ++ written') :
    written = written' ↔
      (tokens source).map Token.signature = (tokens source').map Token.signature := by
  rw [kept_run hrun] at hwritten
  rw [kept_run hrun'] at hwritten'
  rw [← List.append_cancel_left hwritten, ← List.append_cancel_left hwritten']
  constructor
  · intro h
    exact print_inj (fun _ => id) (fun _ => id) (Utf8.encode_injective h)
  · intro h
    exact congrArg Utf8.encode (print_eq_of_signature h)

/-- A string may look like the end of file in print. It does not hide what comes after it, and what
stands around it in the source is not printed. -/
theorem printed_eq_iff_string_lines :
    let source : Text := "\"\nEOF  null\"".toList
    let source' : Text := "//\n\"\nEOF  null\"\n".toList
    let ran := run source Collection.empty .unlimited
    let ran' := run source' Collection.empty .unlimited
    let written := Utf8.encode "STRING \"\nEOF  null\" \nEOF  null\nEOF  null\n".toList
    (∃ outcome, ran.result = .ok outcome) ∧ (∃ outcome, ran'.result = .ok outcome) ∧
      ran.output.kept.toList = written ∧ ran'.output.kept.toList = written ∧
      (tokens source).map Token.signature = (tokens source').map Token.signature := by
  intro source source' ran ran' written
  let string : Lexeme := ⟨source, .token .string (some (.string "\nEOF  null".toList))⟩
  have hvalue : '"' ∉ "\nEOF  null".toList := by decide
  have hstring (rest : Text) : Lexeme.Delimited string rest := .string hvalue
  have hcut : Lexeme.cut source = [string] :=
    Lexeme.cut_eq_iff.mpr ⟨⟨hstring _, trivial⟩, rfl⟩
  have hcut' : Lexeme.cut source' =
      [⟨['/', '/'], .comment⟩, ⟨['\n'], .blank⟩, string, ⟨['\n'], .blank⟩] := by
    have hcomment : Lexeme.Delimited ⟨['/', '/'], .comment⟩ ('\n' :: source ++ ['\n']) :=
      .comment (by simp) (by simp)
    exact Lexeme.cut_eq_iff.mpr
      ⟨⟨hcomment, .blank (by decide), hstring _, .blank (by decide), trivial⟩, rfl⟩
  have hprinted : printedBytes source = written := by
    rw [printedBytes, tokens, scan, hcut]
    refine congrArg Utf8.encode ?_
    decide
  have hprinted' : printedBytes source' = written := by
    rw [printedBytes, tokens, scan, hcut']
    refine congrArg Utf8.encode ?_
    decide
  have hcompletes (s : Text) :
      ∃ outcome, (run s Collection.empty .unlimited).result = .ok outcome := by
    rw [run_of_accepts (Channel.accepts_unlimited _)]
    exact ⟨_, rfl⟩
  obtain ⟨outcome, hrun⟩ := hcompletes source
  obtain ⟨outcome', hrun'⟩ := hcompletes source'
  have hwritten := kept_run hrun
  have hwritten' := kept_run hrun'
  rw [hprinted] at hwritten
  rw [hprinted'] at hwritten'
  exact ⟨⟨outcome, hrun⟩, ⟨outcome', hrun'⟩, hwritten, hwritten',
    (printed_eq_iff hrun hrun' hwritten hwritten').mp rfl⟩

end LoxFrontEnd
