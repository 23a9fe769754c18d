import LoxFrontEnd.Proofs.Tiling

/-!
# Line numbers

Lines are counted twice, and in different ways. A scan counts line feeds while it goes through a
source, also those within strings, and `Span.lines` cuts the source at line feeds and adds up the
lengths. Both find the same lines (`exists_ofLine?`), so the line of a token or a diagnostic is the
one on which its text ends (`lines_exact`).
-/
namespace LoxFrontEnd

namespace Span

/-- The first line reaches from where it has begun to the position, or beyond. -/
theorem exists_head_linesFrom (start position : Nat) (t : Text) :
    ∃ stop, (linesFrom start position t)[0]? = some ⟨start, stop⟩ ∧ position ≤ stop := by
  induction t generalizing position with
  | nil => exact ⟨position, rfl, le_rfl⟩
  | cons c cs ih =>
    by_cases hc : c = '\n'
    · exact ⟨position, by simp [linesFrom, hc], le_rfl⟩
    · obtain ⟨stop, hhead, hle⟩ := ih (position + 1)
      exact ⟨stop, by simpa [linesFrom, hc] using hhead, by omega⟩

/-- The line with as many line feeds in front of it as a text has holds the position behind that
text. -/
theorem exists_getElem_linesFrom {start position : Nat} (h : start ≤ position)
    (before after : Text) :
    ∃ line, (linesFrom start position (before ++ after))[before.lineFeeds]? = some line ∧
      line.start ≤ position + before.length ∧ position + before.length ≤ line.stop := by
  induction before generalizing start position with
  | nil =>
    obtain ⟨stop, hhead, hle⟩ := exists_head_linesFrom start position after
    exact ⟨⟨start, stop⟩, hhead, h, hle⟩
  | cons c cs ih =>
    rw [List.length_cons]
    by_cases hc : c = '\n'
    · obtain ⟨line, hline, hstart, hstop⟩ := ih (le_refl (position + 1))
      exact ⟨line, by simpa [linesFrom, hc, Text.lineFeeds] using hline, by omega, by omega⟩
    · obtain ⟨line, hline, hstart, hstop⟩ := ih (Nat.le_succ_of_le h)
      exact ⟨line, by simpa [linesFrom, hc, Text.lineFeeds] using hline, by omega, by omega⟩

/-- Every position of a source is on the line that the line feeds in front of it call for. -/
theorem exists_ofLine? (before after : Text) :
    ∃ line, ofLine? (before ++ after) (1 + before.lineFeeds) = some line ∧
      line.start ≤ before.length ∧ before.length ≤ line.stop := by
  obtain ⟨line, hline, hstart, hstop⟩ := exists_getElem_linesFrom (le_refl 0) before after
  exact ⟨line, by simpa [ofLine?, lines] using hline, by omega, by omega⟩

/-- A text without line feeds is on the line on which it ends. -/
theorem start_le_of_ofLine? {before text after : Text} (hfree : '\n' ∉ text) {line : Span}
    (h : ofLine? (before ++ text ++ after) (1 + (before ++ text).lineFeeds) = some line) :
    line.start ≤ before.length := by
  have hsame : (before ++ text).lineFeeds = before.lineFeeds := by
    rw [Text.lineFeeds_append]
    exact congrArg (_ + ·) (List.count_eq_zero.mpr hfree)
  obtain ⟨line', hline', hstart, -⟩ := exists_ofLine? before (text ++ after)
  rw [hsame, List.append_assoc, hline'] at h
  cases h
  exact hstart

end Span

/-- A range of a source is attributed to the line on which it ends. The line holds the end of the
range, all of a range without line feeds, and the last character unless that is a line feed. -/
structure EndsOnLine (source : Text) (span : Span) (line : Nat) : Prop where
  line_eq : line = 1 + Text.lineFeeds (source.take span.stop)
  exists_whole : ∃ whole, Span.ofLine? source line = some whole ∧
    whole.start ≤ span.stop ∧ span.stop ≤ whole.stop ∧
    ('\n' ∉ span.textOf source → whole.start ≤ span.start) ∧
    (∀ c ∈ (span.textOf source).getLast?, c ≠ '\n' → whole.start < span.stop)

theorem endsOnLine (before text after : Text) :
    EndsOnLine (before ++ text ++ after) ⟨before.length, before.length + text.length⟩
      (1 + (before ++ text).lineFeeds) := by
  have htext : Span.textOf ⟨before.length, before.length + text.length⟩ (before ++ text ++ after) =
      text := by
    simp [Span.textOf]
  have hstop : before.length + text.length = (before ++ text).length := List.length_append.symm
  obtain ⟨whole, hwhole, hlow, hhigh⟩ := Span.exists_ofLine? (before ++ text) after
  refine ⟨?_, whole, hwhole, hstop ▸ hlow, hstop ▸ hhigh, ?_, ?_⟩
  · simp only [hstop, List.take_left]
  · intro hfree
    rw [htext] at hfree
    exact Span.start_le_of_ofLine? hfree hwhole
  · intro c hc hne
    rw [htext] at hc
    obtain ⟨init, rfl⟩ := List.getLast?_eq_some_iff.mp hc
    rw [← List.append_assoc before init [c]] at hwhole
    have hlast := Span.start_le_of_ofLine? (by simpa using hne.symm) hwhole
    simp only [List.length_append, List.length_singleton] at hlast ⊢
    omega

/-- The line that a segment is reported on, if it is. -/
def Segment.line? (s : Segment) : Option Nat :=
  match s.account with
  | .token t => some t.line
  | .diagnostic d => some d.line
  | .blank | .comment => none

theorem Element.line?_segment {e : Element} {line : Nat} (h : e.segment.line? = some line) :
    line = e.line := by
  cases hrole : e.lexeme.role <;> simp_all [segment, Segment.line?]

theorem line_eq_of_mem_scan {source : Text} {e : Element} (h : e ∈ scan source) :
    e.line = 1 + Text.lineFeeds (source.take e.stop) := by
  obtain ⟨before, after, rfl, hstart, hline, -⟩ := exists_of_mem_scan h
  have hstop : e.stop = (before ++ e.lexeme.text).length := by simp [Element.stop, hstart]
  rw [hline, hstop, List.take_left]

theorem endsOnLine_of_mem_scan {source : Text} {e : Element} (h : e ∈ scan source) :
    EndsOnLine source e.span e.line := by
  obtain ⟨before, after, rfl, hstart, hline, -⟩ := exists_of_mem_scan h
  rw [hline, Element.span, Element.stop, hstart]
  exact endsOnLine before e.lexeme.text after

/-- The end of file is on the last line. -/
theorem endsOnLine_lastLine (source : Text) :
    EndsOnLine source ⟨source.length, source.length⟩ (lastLine source) := by
  simpa [lastLine] using endsOnLine source [] []

/-- Lines only grow along a source. -/
theorem pairwise_line_scan (source : Text) :
    (scan source).Pairwise fun e f => e.line ≤ f.line := by
  have horder := List.pairwise_map.mp (consecutive_scan source).pairwise
  refine horder.imp_of_mem fun {e f} he hf hef => ?_
  have hle : e.stop ≤ f.stop := Nat.le_trans hef (Nat.le_add_right f.start _)
  rw [line_eq_of_mem_scan he, line_eq_of_mem_scan hf]
  exact Nat.add_le_add_left ((List.take_sublist_take_left hle).count_le '\n') 1

theorem Element.line_token? {e : Element} {t : Token} (h : e.token? = some t) :
    t.line = e.line := by
  unfold token? at h
  split at h <;> cases h
  rfl

theorem Element.line_diagnostic? {e : Element} {d : Diagnostic} (h : e.diagnostic? = some d) :
    d.line = e.line := by
  unfold diagnostic? at h
  split at h <;> cases h
  rfl

theorem line_le_lastLine {source : Text} {e : Element} (h : e ∈ scan source) :
    e.line ≤ lastLine source := by
  rw [line_eq_of_mem_scan h]
  exact Nat.add_le_add_left ((List.take_sublist _ source).count_le '\n') 1

theorem pairwise_line_tokens (source : Text) :
    ((tokens source).map Token.line).Pairwise (· ≤ ·) := by
  rw [List.pairwise_map, tokens, List.pairwise_append]
  refine ⟨?_, List.pairwise_singleton _ _, ?_⟩
  · rw [List.pairwise_filterMap]
    refine (pairwise_line_scan source).imp fun hef t ht u hu => ?_
    rw [Element.line_token? ht, Element.line_token? hu]
    exact hef
  · intro t ht u hu
    obtain ⟨e, he, het⟩ := List.mem_filterMap.mp ht
    rw [List.mem_singleton.mp hu, Element.line_token? het]
    exact line_le_lastLine he

theorem pairwise_line_diagnostics (source : Text) :
    ((diagnostics source).map Diagnostic.line).Pairwise (· ≤ ·) := by
  rw [List.pairwise_map, diagnostics, List.pairwise_filterMap]
  refine (pairwise_line_scan source).imp fun hef d hd u hu => ?_
  rw [Element.line_diagnostic? hd, Element.line_diagnostic? hu]
  exact hef

/-- Every token and every diagnostic is on the line on which its text ends, as `Span.ofLine?` has
it, and the end of file is on the last line. -/
theorem lines_exact (source : Text) :
    let segments := (scan source).map Element.segment
    IsTiling source segments ∧
    (∀ s ∈ segments, ∀ line ∈ s.line?, EndsOnLine source s.span line) ∧
    (∃ line, tokens source = segments.filterMap Segment.token? ++ [⟨.eof, [], none, line⟩] ∧
      EndsOnLine source ⟨source.length, source.length⟩ line) ∧
    ((tokens source).map Token.line).Pairwise (· ≤ ·) ∧
    ((emissions (scanCalls source)).map Diagnostic.line).Pairwise (· ≤ ·) := by
  intro segments
  refine ⟨isTiling_scan source, ?_, ⟨lastLine source, ?_, ?_⟩, pairwise_line_tokens source, ?_⟩
  · intro s hs line hline
    obtain ⟨e, he, rfl⟩ := List.mem_map.mp hs
    rw [Element.line?_segment hline]
    exact endsOnLine_of_mem_scan he
  · rw [tokens, List.filterMap_map, Element.token?_comp_segment]
    rfl
  · exact endsOnLine_lastLine source
  · rw [emissions_scanCalls]
    exact pairwise_line_diagnostics source

end LoxFrontEnd
