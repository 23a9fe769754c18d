import LoxFrontEnd.Proofs.LineCutting
import LoxFrontEnd.Proofs.Separation

/-!
# Scanning line by line

A script is scanned as a whole and a session line by line, yet they find the same tokens and the
same faults in the same bytes, unless a string runs on past the end of its line (`scan_linewise`).
Only the line numbers of faults differ: a session counts from one in each line.
-/
namespace LoxFrontEnd

/-- The end of a line does not matter to what is in the line. -/
theorem essence_append_tail {s tail : Text} (hs : Lexeme.IsClosed s) (htail : tail ∈ [[], ['\r']]) :
    Lexeme.essence (s ++ tail) = Lexeme.essence s := by
  obtain rfl | htail := List.mem_cons.mp htail
  · rw [List.append_nil]
  · rw [List.mem_singleton.mp htail]
    exact Lexeme.essence_append_return hs

theorem isClosed_append_tail {s tail : Text} (hs : Lexeme.IsClosed s)
    (htail : tail ∈ [[], ['\r']]) : Lexeme.IsClosed (s ++ tail) := by
  rw [Lexeme.isClosed_iff_essence, essence_append_tail hs htail]
  exact Lexeme.isClosed_iff_essence.mp hs

/-- What a text means is what its lines mean. -/
theorem HasLines.essence_eq {t : Text} {sources : List Text} (h : HasLines t sources)
    (hclosed : ∀ s ∈ sources, Lexeme.IsClosed s) :
    Lexeme.essence t = sources.flatMap Lexeme.essence := by
  induction h with
  | none => simp [Lexeme.essence]
  | last => simp
  | cons _ htail _ ih =>
    obtain ⟨hs, hrest⟩ := List.forall_mem_cons.mp hclosed
    rw [Lexeme.essence_append_lineFeed (isClosed_append_tail hs htail),
      essence_append_tail hs htail, ih hrest, List.flatMap_cons]

theorem lineFeed_not_mem_append_tail {s tail : Text} (hs : '\n' ∉ s)
    (htail : tail ∈ [[], ['\r']]) : '\n' ∉ s ++ tail := by
  obtain rfl | htail := List.mem_cons.mp htail
  · rwa [List.append_nil]
  · rw [List.mem_singleton.mp htail]
    simpa using hs

/-- The faults of a line are on it in a script, whatever its number is. -/
theorem located_place {s tail : Text} (hfree : '\n' ∉ s) (hs : Lexeme.IsClosed s)
    (htail : tail ∈ [[], ['\r']]) (start line : Nat) :
    ((Element.place start line (Lexeme.cut (s ++ tail))).filterMap Element.diagnostic?).map
        (fun d => (d.line, d.message)) =
      (diagnostics s).map fun d => (line, d.message) := by
  have hfree' := lineFeed_not_mem_append_tail hfree htail
  have hline : ∀ e ∈ Element.place start line (Lexeme.cut (s ++ tail)), e.line = line := by
    intro e he
    obtain ⟨before, after, hcut, -, hline⟩ := Element.exists_of_mem_place he
    have hjoin := Lexeme.join_cut (s ++ tail)
    rw [hcut, List.flatMap_append, List.flatMap_cons, ← List.append_assoc] at hjoin
    rw [← hjoin, List.mem_append, not_or] at hfree'
    rw [hline, Text.lineFeeds, List.count_eq_zero.mpr hfree'.1, Nat.add_zero]
  calc ((Element.place start line (Lexeme.cut (s ++ tail))).filterMap Element.diagnostic?).map
        (fun d => (d.line, d.message))
      = (Element.place start line (Lexeme.cut (s ++ tail))).filterMap
          fun e => e.lexeme.fault?.map fun f => (line, f.message) := by
        rw [List.map_filterMap]
        refine List.filterMap_congr fun e he => ?_
        rw [Element.diagnostic?_eq, Option.map_map, ← hline e he]
        rfl
    _ = (Lexeme.cut (s ++ tail)).filterMap fun l => l.fault?.map fun f => (line, f.message) :=
        Element.filterMap_place (fun l => l.fault?.map fun f => (line, f.message)) start line _
    _ = (((Lexeme.essence (s ++ tail)).filterMap Lexeme.fault?).map Fault.message).map
          fun message => (line, message) := by
        rw [Lexeme.filterMap_essence (fun _ => Lexeme.fault?_of_isTrivia), List.map_map,
          List.map_filterMap]
        rfl
    _ = (diagnostics s).map fun d => (line, d.message) := by
        rw [essence_append_tail hs htail, ← map_message_diagnostics, List.map_map]
        rfl

/-- Line by line, the faults of a text are those of its lines. -/
theorem HasLines.located_diagnostics {t : Text} {sources : List Text} (h : HasLines t sources)
    (hclosed : ∀ s ∈ sources, Lexeme.IsClosed s) (start line : Nat) :
    ((Element.place start line (Lexeme.cut t)).filterMap Element.diagnostic?).map
        (fun d => (d.line, d.message)) =
      (sources.zipIdx line).flatMap fun p => (diagnostics p.1).map fun d => (p.2, d.message) := by
  induction h generalizing start line with
  | none => simp [Element.place]
  | @last s hs =>
    have hline := located_place hs (hclosed s List.mem_cons_self) List.mem_cons_self start line
    rw [List.append_nil] at hline
    simpa using hline
  | @cons s tail t sources hs htail hrest ih =>
    obtain ⟨hfirst, hothers⟩ := List.forall_mem_cons.mp hclosed
    have hline := located_place hs hfirst htail start line
    have hfree := lineFeed_not_mem_append_tail hs htail
    have hnext : line + Text.lineFeeds (s ++ tail) + Text.lineFeeds ['\n'] = line + 1 := by
      rw [Text.lineFeeds, List.count_eq_zero.mpr hfree]
      rfl
    rw [Lexeme.cut_append_lineFeed (isClosed_append_tail hfirst htail), Element.place_append,
      List.filterMap_append, List.map_append, hline, Lexeme.join_cut, List.zipIdx_cons,
      List.flatMap_cons]
    rw [Element.place, List.filterMap_cons_none rfl, hnext, ih hothers]

/-- A script has the tokens and the faults of its lines, if every string ends on its line. -/
theorem scan_linewise {bytes : List UInt8}
    (hclosed : ∀ source ∈ lineSources bytes, ∀ d ∈ emissions (scanCalls source),
      d.message ≠ "Unterminated string.".toList) :
    let sources := lineSources bytes
    let script := Utf8.decode bytes
    (tokens script).map Token.signature =
      sources.flatMap (fun source =>
        ((tokens source).filter (·.kind ≠ .eof)).map Token.signature) ++ [(.eof, [], none)] ∧
    (emissions (scanCalls script)).map (fun d => (d.line, d.message)) =
      (sources.zipIdx 1).flatMap (fun p =>
        (emissions (scanCalls p.1)).map fun d => (p.2, d.message)) ∧
    ∀ source ∈ sources, ∀ d ∈ emissions (scanCalls source), d.line = 1 := by
  intro sources script
  simp only [emissions_scanCalls] at hclosed ⊢
  have hlines : HasLines script sources := hasLines_decode bytes
  have hclosed' : ∀ source ∈ sources, Lexeme.IsClosed source :=
    fun source hsource => isClosed_of_diagnostics (hclosed source hsource)
  refine ⟨?_, hlines.located_diagnostics hclosed' 0 1, ?_⟩
  · have htokens (source : Text) : ((tokens source).filter (·.kind ≠ .eof)).map Token.signature =
        (Lexeme.essence source).filterMap Lexeme.signature? := by
      rw [filter_tokens, map_signature_tokens]
    simp only [htokens]
    rw [tokens, List.map_append, map_signature_tokens, hlines.essence_eq hclosed',
      List.filterMap_flatMap]
    rfl
  · intro source hsource d hd
    exact line_of_mem_diagnostics (hlines.lineFeed_not_mem source hsource) hd

/-- A character that a line feed breaks off stays in the comment on its line. -/
theorem scan_linewise_broken :
    (∀ source ∈ lineSources [0x2F, 0x2F, 0xC3, 0x0A, 0x40], ∀ d ∈ emissions (scanCalls source),
      d.message ≠ "Unterminated string.".toList) ∧
    (emissions (scanCalls (Utf8.decode [0x2F, 0x2F, 0xC3, 0x0A, 0x40]))).map
        (fun d => (d.line, d.message)) = [(2, Fault.message .unexpectedCharacter)] := by
  have hsources : lineSources [0x2F, 0x2F, 0xC3, 0x0A, 0x40] =
      [['/', '/', Utf8.replacement], ['@']] := by decide
  have hfirst : Lexeme.cut ['/', '/', Utf8.replacement] =
      [⟨['/', '/', Utf8.replacement], .comment⟩] :=
    Lexeme.cut_eq_iff.mpr ⟨⟨.comment (by decide) (Text.stops_nil _), trivial⟩, rfl⟩
  have hsecond : Lexeme.cut ['@'] = [⟨['@'], .fault .unexpectedCharacter⟩] :=
    Lexeme.cut_eq_iff.mpr ⟨⟨.unexpected (by decide), trivial⟩, rfl⟩
  have hclosed : ∀ source ∈ lineSources [0x2F, 0x2F, 0xC3, 0x0A, 0x40],
      ∀ d ∈ emissions (scanCalls source), d.message ≠ "Unterminated string.".toList := by
    rw [hsources]
    intro source hsource
    obtain rfl | rfl := List.mem_pair.mp hsource
    · rw [emissions_scanCalls, diagnostics, scan, hfirst]
      decide
    · rw [emissions_scanCalls, diagnostics, scan, hsecond]
      decide
  refine ⟨hclosed, (scan_linewise hclosed).2.1.trans ?_⟩
  simp only [hsources, List.zipIdx_cons, List.zipIdx_nil, List.flatMap_cons, List.flatMap_nil,
    emissions_scanCalls, diagnostics, scan, hfirst, hsecond]
  rfl

end LoxFrontEnd
