import LoxFrontEnd.Proofs.Separation

/-!
# Respelling

The lexemes of tokens, written with blanks between them, are scanned into these tokens again,
wherever the tokens come from (`scan_joined`). A blank cannot become a part of the token in front of
it, and it keeps that token from taking in the next one.
-/
namespace LoxFrontEnd

/-- Texts put together with a separator in front of each but the first. -/
def Text.joined (separators : List Text) : List Text → Text
  | [] => []
  | t :: ts => t ++ (separators.zip ts).flatMap fun (separator, u) => separator ++ u

/-- A scan has the end of file as a token, and what its lexemes denote. -/
theorem Token.denotes_or_eof {source : Text} {t : Token} (h : t ∈ tokens source) :
    Denotes t.lexeme t.kind t.literal ∨ t.signature = (.eof, [], none) := by
  obtain h | h := List.mem_append.mp h
  · obtain ⟨e, he, het⟩ := List.mem_filterMap.mp h
    obtain ⟨hlexeme, -, hdenotes⟩ :=
      (Element.token?_eq_some_iff (delimited_of_mem_scan he) t).mp het
    rw [← hlexeme] at hdenotes
    exact .inl hdenotes
  · rw [List.mem_singleton.mp h]
    exact .inr rfl

theorem Token.denotes_of_mem {source : Text} {t : Token} (h : t ∈ tokens source)
    (heof : t.kind ≠ .eof) : Denotes t.lexeme t.kind t.literal :=
  (denotes_or_eof h).resolve_right fun hend => heof (congrArg Prod.fst hend)

/-- What denotes a token is scanned into it. -/
theorem Denotes.mem_tokens {t : Text} {kind : Kind} {literal : Option Literal}
    (h : Denotes t kind literal) : ⟨kind, t, literal, 1 + t.lineFeeds⟩ ∈ tokens t := by
  rw [tokens, scan, h.cut_eq]
  exact List.mem_cons_self

namespace Lexeme

/-- What a token was read from. -/
def ofToken (t : Token) : Lexeme := ⟨t.lexeme, .token t.kind t.literal⟩

/-- The lexeme of a token, and of others that have blanks in front of them. -/
def spread (t : Token) (others : List (Text × Token)) : List Lexeme :=
  ofToken t :: others.flatMap fun (separator, u) => blanks separator ++ [ofToken u]

theorem flatMap_text_blanks (separator : Text) : (blanks separator).flatMap text = separator := by
  simp [blanks, List.flatMap_map]

theorem flatMap_text_spread (t : Token) (others : List (Text × Token)) :
    (spread t others).flatMap text =
      t.lexeme ++ others.flatMap fun (separator, u) => separator ++ u.lexeme := by
  simp [spread, List.flatMap_assoc, flatMap_text_blanks, ofToken]

/-- Tokens are what is left if the blanks are left out. -/
theorem filter_spread (t : Token) (others : List (Text × Token)) :
    (spread t others).filter (!·.isTrivia) = (t :: others.map Prod.snd).map ofToken := by
  have hblanks (separator : Text) : (blanks separator).filter (!·.isTrivia) = [] := by
    simp [blanks, isTrivia]
  have htoken (u : Token) : (ofToken u).isTrivia = false := rfl
  simp [spread, List.filter_flatMap, hblanks, htoken, ← List.map_eq_flatMap]

/-- A token ends where a blank begins. -/
theorem delimited_ofToken {t : Token} (ht : Denotes t.lexeme t.kind t.literal) {separator : Text}
    (hne : separator ≠ []) (hblank : ∀ c ∈ separator, isBlank c) (rest : Text) :
    Delimited (ofToken t) (separator ++ rest) := by
  obtain ⟨c, cs, rfl⟩ := List.exists_cons_of_ne_nil hne
  have hc : isBlank c := hblank c List.mem_cons_self
  exact ht.delimited.followed hc (by simp) (by simp) (cs ++ rest)

/-- Tokens with blanks between them are cut where the blanks are. -/
theorem isCut_spread {t : Token} (ht : Denotes t.lexeme t.kind t.literal)
    {others : List (Text × Token)}
    (hothers : ∀ p ∈ others, Denotes p.2.lexeme p.2.kind p.2.literal)
    (hseparators : ∀ p ∈ others, p.1 ≠ [] ∧ ∀ c ∈ p.1, isBlank c) :
    IsCut [] (spread t others) := by
  induction others generalizing t with
  | nil => exact ⟨ht.delimited, trivial⟩
  | cons p others ih =>
    obtain ⟨separator, u⟩ := p
    obtain ⟨hu, hothers⟩ := List.forall_mem_cons.mp hothers
    obtain ⟨⟨hne, hblank⟩, hseparators⟩ := List.forall_mem_cons.mp hseparators
    have hspread : spread t ((separator, u) :: others) =
        ofToken t :: (blanks separator ++ spread u others) := by
      simp [spread]
    rw [hspread]
    refine ⟨?_, isCut_append.mpr ⟨isCut_blanks_of_isBlank hblank _, ih hu hothers hseparators⟩⟩
    rw [List.flatMap_append, flatMap_text_blanks, List.append_assoc]
    exact delimited_ofToken ht hne hblank _

/-- What lexemes of tokens mean when they are joined is these tokens. -/
theorem essence_joined {ts : List Token} (hts : ∀ t ∈ ts, Denotes t.lexeme t.kind t.literal)
    {separators : List Text} (hcount : ts.length ≤ separators.length + 1)
    (hseparators : ∀ s ∈ separators, s ≠ [] ∧ ∀ c ∈ s, isBlank c) :
    essence (Text.joined separators (ts.map Token.lexeme)) = ts.map ofToken := by
  cases ts with
  | nil => simp [Text.joined, essence]
  | cons t ts =>
    obtain ⟨ht, hts⟩ := List.forall_mem_cons.mp hts
    have hcut : cut (Text.joined separators ((t :: ts).map Token.lexeme)) =
        spread t (separators.zip ts) := by
      rw [cut_eq_iff]
      constructor
      · refine isCut_spread ht ?_ ?_
        · intro p hp
          exact hts p.2 (List.of_mem_zip hp).2
        · intro p hp
          exact hseparators p.1 (List.of_mem_zip hp).1
      · rw [flatMap_text_spread, List.map_cons, Text.joined, List.zip_map_right, List.flatMap_map]
        rfl
    have hall : (separators.zip ts).map Prod.snd = ts := by
      refine List.map_snd_zip ?_
      simpa using hcount
    rw [essence, hcut, filter_spread, hall]

end Lexeme

/-- What a scan finds in a source that means some tokens and nothing else. -/
theorem scan_of_essence {source : Text} {ts : List Token}
    (h : Lexeme.essence source = ts.map Lexeme.ofToken) :
    diagnostics source = [] ∧
      (tokens source).map Token.signature = ts.map Token.signature ++ [(.eof, [], none)] := by
  constructor
  · have hmessages := map_message_diagnostics source
    have hnone : ts.filterMap (Lexeme.fault? ∘ Lexeme.ofToken) = [] :=
      List.filterMap_eq_nil_iff.mpr fun _ _ => rfl
    rw [h, List.filterMap_map, hnone] at hmessages
    exact List.map_eq_nil_iff.mp hmessages
  · have hsignature : Lexeme.signature? ∘ Lexeme.ofToken = some ∘ Token.signature := rfl
    rw [tokens, List.map_append, map_signature_tokens, h, List.filterMap_map, hsignature,
      List.filterMap_eq_map]
    rfl

/-- Lexemes of tokens that were scanned somewhere are scanned into these tokens again, if blanks
keep them apart, and each of them by itself is. -/
theorem scan_joined {ts : List Token}
    (hts : ∀ t ∈ ts, t.kind ≠ .eof ∧ ∃ source, t ∈ tokens source) {separators : List Text}
    (hcount : separators.length = ts.length - 1)
    (hseparators : ∀ s ∈ separators, s ≠ [] ∧ ∀ c ∈ s, c ∈ [' ', '\r', '\t', '\n']) :
    let source := Text.joined separators (ts.map Token.lexeme)
    emissions (scanCalls source) = [] ∧
    (tokens source).map Token.signature = ts.map Token.signature ++ [(.eof, [], none)] ∧
    ∀ t ∈ ts, emissions (scanCalls t.lexeme) = [] ∧
      (tokens t.lexeme).map Token.signature = [t.signature, (.eof, [], none)] := by
  intro source
  simp only [emissions_scanCalls]
  have hdenotes : ∀ t ∈ ts, Denotes t.lexeme t.kind t.literal := by
    intro t ht
    obtain ⟨heof, s, hs⟩ := hts t ht
    exact Token.denotes_of_mem hs heof
  have hblanks : ∀ s ∈ separators, s ≠ [] ∧ ∀ c ∈ s, isBlank c := by
    intro s hs
    obtain ⟨hne, hblank⟩ := hseparators s hs
    exact ⟨hne, fun c hc => (LexicalClass.isBlank_iff c).mpr (hblank c hc)⟩
  obtain ⟨hdiagnostics, hsignatures⟩ :=
    scan_of_essence (Lexeme.essence_joined hdenotes (by omega) hblanks)
  refine ⟨hdiagnostics, hsignatures, fun t ht => ?_⟩
  have halone : Lexeme.essence t.lexeme = [t].map Lexeme.ofToken := by
    have hone : ∀ u ∈ [t], Denotes u.lexeme u.kind u.literal := by
      simpa using hdenotes t ht
    have hjoined := Lexeme.essence_joined hone (show [t].length ≤ [].length + 1 by simp) (by simp)
    simpa [Text.joined] using hjoined
  exact scan_of_essence halone

/-- Two slashes apart are no comment, and a string keeps its slashes and its line feed. -/
theorem scan_joined_slashes :
    (∀ t ∈ [(⟨.string, ['"', '/', '/', '\n', '"'], some (.string ['/', '/', '\n']), 2⟩ : Token),
        ⟨.operator .slash, ['/'], none, 1⟩, ⟨.operator .slash, ['/'], none, 1⟩],
      t.kind ≠ .eof ∧ ∃ source, t ∈ tokens source) ∧
    (∀ s ∈ [[' '], ['\r', '\n']], s ≠ [] ∧ ∀ c ∈ s, c ∈ [' ', '\r', '\t', '\n']) ∧
    (tokens ['"', '/', '/', '\n', '"', ' ', '/', '\r', '\n', '/']).map Token.signature =
      [(.string, ['"', '/', '/', '\n', '"'], some (.string ['/', '/', '\n'])),
        (.operator .slash, ['/'], none), (.operator .slash, ['/'], none), (.eof, [], none)] := by
  have hstring := (Denotes.string (show '"' ∉ ['/', '/', '\n'] by decide)).mem_tokens
  have hslash := (Denotes.operator .slash).mem_tokens
  have htokens : ∀ t ∈ [(⟨.string, ['"', '/', '/', '\n', '"'],
      some (.string ['/', '/', '\n']), 2⟩ : Token), ⟨.operator .slash, ['/'], none, 1⟩,
      ⟨.operator .slash, ['/'], none, 1⟩], t.kind ≠ .eof ∧ ∃ source, t ∈ tokens source := by
    simp only [List.forall_mem_cons]
    exact ⟨⟨by simp, _, hstring⟩, ⟨by simp, _, hslash⟩, ⟨by simp, _, hslash⟩, by simp⟩
  have hseparators : ∀ s ∈ [[' '], ['\r', '\n']],
      s ≠ [] ∧ ∀ c ∈ s, c ∈ [' ', '\r', '\t', '\n'] := by simp
  exact ⟨htokens, hseparators, (scan_joined htokens rfl hseparators).2.1⟩

end LoxFrontEnd
