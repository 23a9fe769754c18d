import LoxFrontEnd.Proofs.Separation

/-!
# Concatenation

A scan that has come to a line feed outside of a string begins anew: nothing of what stands in front
of the line feed is carried over to what stands behind it but how many characters and lines there
were (`scan_append_lineFeed`). So the tokens and diagnostics of two sources put together by a line
feed are those of the one and, further down, those of the other (`lineFeed_resynchronises`).
-/
namespace LoxFrontEnd

/-- A span in a source that is put behind `offset` characters. -/
def Span.shift (offset : Nat) (s : Span) : Span := ⟨s.start + offset, s.stop + offset⟩

/-- A token of a source that is put behind some lines. -/
def Token.shift (lines : Nat) (t : Token) : Token := { t with line := t.line + lines }

/-- A diagnostic for a source that is put behind some lines, of `offset` characters in all. -/
def Diagnostic.shift (lines offset : Nat) (d : Diagnostic) : Diagnostic :=
  { d with line := d.line + lines, span := d.span.map (Span.shift offset) }

namespace Element

def shift (lines offset : Nat) (e : Element) : Element :=
  { e with start := e.start + offset, line := e.line + lines }

/-- Lexemes are placed in the same way wherever the first one is. -/
theorem place_add (start line lines offset : Nat) (ls : List Lexeme) :
    place (start + offset) (line + lines) ls = (place start line ls).map (shift lines offset) := by
  induction ls generalizing start line with
  | nil => rfl
  | cons l ls ih =>
    have hstart : start + offset + l.text.length = start + l.text.length + offset := by omega
    have hline : line + lines + l.text.lineFeeds = line + l.text.lineFeeds + lines := by omega
    simp only [place, List.map_cons, hstart, hline, ih, shift]

theorem span_shift (lines offset : Nat) (e : Element) :
    (e.shift lines offset).span = e.span.shift offset := by
  have hstop : e.start + offset + e.lexeme.text.length =
      e.start + e.lexeme.text.length + offset := by omega
  simp only [span, stop, shift, Span.shift, hstop]

theorem token?_shift (lines offset : Nat) (e : Element) :
    (e.shift lines offset).token? = e.token?.map (Token.shift lines) := by
  cases h : e.lexeme.role <;> simp [token?, shift, Token.shift, h]

theorem diagnostic?_shift (lines offset : Nat) (e : Element) :
    (e.shift lines offset).diagnostic? = e.diagnostic?.map (Diagnostic.shift lines offset) := by
  rw [diagnostic?_eq, diagnostic?_eq, Option.map_map, span_shift]
  rfl

/-- What is read off shifted elements is what is read off them unshifted, and then shifted. -/
theorem filterMap_map_shift {α : Type} {f : Element → Option α} {g : α → α} {lines offset : Nat}
    (h : ∀ e : Element, f (e.shift lines offset) = (f e).map g) (es : List Element) :
    (es.map (shift lines offset)).filterMap f = (es.filterMap f).map g := by
  rw [List.filterMap_map, List.map_filterMap]
  exact List.filterMap_congr fun e _ => h e

end Element

/-- What is behind a line feed is scanned as if by itself, and then shifted. -/
theorem scan_append_lineFeed {s : Text} (hs : Lexeme.IsClosed s) (t : Text) :
    scan (s ++ '\n' :: t) = scan s ++ ⟨⟨['\n'], .blank⟩, s.length, lastLine s + 1⟩ ::
      (scan t).map (Element.shift (lastLine s) (s.length + 1)) := by
  have hbehind : Element.place (s.length + 1) (lastLine s + 1) (Lexeme.cut t) =
      (scan t).map (Element.shift (lastLine s) (s.length + 1)) := by
    have hadd := Element.place_add 0 1 (lastLine s) (s.length + 1) (Lexeme.cut t)
    rwa [Nat.zero_add, Nat.add_comm 1] at hadd
  rw [scan, Lexeme.cut_append_lineFeed hs, Element.place_append, Lexeme.join_cut, Nat.zero_add,
    ← hbehind]
  rfl

theorem lastLine_append_lineFeed (s t : Text) :
    lastLine (s ++ '\n' :: t) = lastLine t + lastLine s := by
  have hfeed : Text.lineFeeds ('\n' :: t) = t.lineFeeds + 1 := List.count_cons_self
  rw [lastLine, lastLine, lastLine, Text.lineFeeds_append, hfeed]
  omega

theorem tokens_append_lineFeed {s : Text} (hs : Lexeme.IsClosed s) (t : Text) :
    tokens (s ++ '\n' :: t) =
      (tokens s).filter (·.kind ≠ .eof) ++ (tokens t).map (Token.shift (lastLine s)) := by
  have hend : Token.endOfFile (lastLine (s ++ '\n' :: t)) =
      (Token.endOfFile (lastLine t)).shift (lastLine s) := by
    rw [lastLine_append_lineFeed]
    rfl
  rw [filter_tokens, tokens, tokens, scan_append_lineFeed hs, List.filterMap_append,
    List.filterMap_cons_none rfl, Element.filterMap_map_shift (Element.token?_shift _ _), hend]
  simp

theorem diagnostics_append_lineFeed {s : Text} (hs : Lexeme.IsClosed s) (t : Text) :
    diagnostics (s ++ '\n' :: t) =
      diagnostics s ++ (diagnostics t).map (Diagnostic.shift (lastLine s) (s.length + 1)) := by
  rw [diagnostics, scan_append_lineFeed hs, List.filterMap_append, List.filterMap_cons_none rfl,
    Element.filterMap_map_shift (Element.diagnostic?_shift _ _)]
  rfl

/-- A line feed behind a source without an open string separates it from what follows, which is
scanned as if by itself, only further down. -/
theorem lineFeed_resynchronises {s : Text}
    (hs : ∀ d ∈ emissions (scanCalls s), d.message ≠ "Unterminated string.".toList) (t : Text) :
    let k := 1 + s.count '\n'
    tokens (s ++ ['\n'] ++ t) =
      (tokens s).filter (·.kind ≠ .eof) ++ (tokens t).map (Token.shift k) ∧
    emissions (scanCalls (s ++ ['\n'] ++ t)) = emissions (scanCalls s) ++
      (emissions (scanCalls t)).map (Diagnostic.shift k (s.length + 1)) := by
  intro k
  simp only [emissions_scanCalls] at hs ⊢
  have hclosed : Lexeme.IsClosed s := isClosed_of_diagnostics hs
  rw [List.append_assoc, List.singleton_append]
  exact ⟨tokens_append_lineFeed hclosed t, diagnostics_append_lineFeed hclosed t⟩

/-- Half an operator is not finished on the next line, and a string left open there is reported
behind both lines of the string in front. -/
theorem lineFeed_resynchronises_half_operator :
    (∀ d ∈ emissions (scanCalls ['"', '\n', '"', '@', '!']),
      d.message ≠ "Unterminated string.".toList) ∧
    tokens (['"', '\n', '"', '@', '!'] ++ ['\n'] ++ ['=', '"']) =
      [⟨.string, ['"', '\n', '"'], some (.string ['\n']), 2⟩, ⟨.operator .bang, ['!'], none, 2⟩,
        ⟨.operator .equal, ['='], none, 3⟩, .endOfFile 3] ∧
    emissions (scanCalls (['"', '\n', '"', '@', '!'] ++ ['\n'] ++ ['=', '"'])) =
      [⟨2, [], Fault.message .unexpectedCharacter, some ⟨3, 4⟩⟩,
        ⟨3, [], Fault.message .unterminatedString, some ⟨7, 8⟩⟩] := by
  have hfirst : Lexeme.cut ['"', '\n', '"', '@', '!'] =
      [⟨['"', '\n', '"'], .token .string (some (.string ['\n']))⟩,
        ⟨['@'], .fault .unexpectedCharacter⟩, ⟨['!'], .token (.operator .bang) none⟩] :=
    Lexeme.cut_eq_iff.mpr ⟨⟨.string (show '"' ∉ ['\n'] by decide), .unexpected (by decide),
      .operator (o := .bang) (by simp) (by simp), trivial⟩, rfl⟩
  have hsecond : Lexeme.cut ['=', '"'] =
      [⟨['='], .token (.operator .equal) none⟩, ⟨['"'], .fault .unterminatedString⟩] :=
    Lexeme.cut_eq_iff.mpr ⟨⟨.operator (o := .equal) (by simp; decide) (by simp),
      .unterminated (show '"' ∉ [] by simp), trivial⟩, rfl⟩
  have hclosed : ∀ d ∈ emissions (scanCalls ['"', '\n', '"', '@', '!']),
      d.message ≠ "Unterminated string.".toList := by
    rw [emissions_scanCalls, diagnostics, scan, hfirst]
    decide
  obtain ⟨htokens, hemissions⟩ := lineFeed_resynchronises hclosed ['=', '"']
  refine ⟨hclosed, htokens.trans ?_, hemissions.trans ?_⟩
  · simp only [tokens, scan, hfirst, hsecond]
    rfl
  · simp only [emissions_scanCalls, diagnostics, scan, hfirst, hsecond]
    rfl

end LoxFrontEnd
