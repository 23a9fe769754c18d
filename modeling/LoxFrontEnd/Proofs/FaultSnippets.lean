import LoxFrontEnd.Proofs.Chronicle
import LoxFrontEnd.Proofs.LastLine
import LoxFrontEnd.Proofs.Location
import LoxFrontEnd.Proofs.SnippetPlaces

/-!
# Snippets of faults

In a run, a console that is to present snippets does so for every fault. The source is there, as the
run has begun with it, and the span of a fault lies within it, so it is marked as it is
(`Diagnostic.IsShown`). The row in the header and the line in the note may differ: the row counts
the line breaks of all kinds in front of the span, and the line the line feeds up to its end.
-/
namespace LoxFrontEnd

namespace Snippet.Content

/-- The row that tells where the span begins. -/
def header (x : Content) (origin : Text) (row column : Nat) : Row :=
  let location := origin ++ ':' :: Text.ofNat row ++ ':' :: Text.ofNat column
  [bare (spaces (x.marginWidth + 2)), painted .margin ['╭'], painted .margin ['─'],
    painted .margin ['['], bare location, painted .margin [']']]

/-- The row that tells the reported line. -/
def note (x : Content) (line : Nat) : Row :=
  x.unnumbered '│' ++ x.notePadding ++
    [painted .note "Note".toList, bare (": reported on line ".toList ++ Text.ofNat line)]

/-- The header is the second row, and the note the last one but the foot. -/
theorem exists_rows_eq (x : Content) : ∃ title middle,
    x.rows = title :: x.header x.filename (x.first.row + 1) (x.first.column + 1) :: middle ++
      [x.note x.line, [x.foot]] := by
  refine ⟨[painted .fault "Error:".toList, bare (' ' :: x.title)],
    [bare (spaces (x.marginWidth + 2)), painted .margin ['│']] ::
      (if x.first.row = x.last.row then x.underlined else x.bracketed) ++
      [x.unnumbered '│' ++ x.notePadding], ?_⟩
  simp only [rows, header, note, foot, List.cons_append, List.nil_append, List.append_assoc]

end Snippet.Content

/-- A line feed is no part of a longer lexeme that it begins. -/
theorem Lexeme.Delimited.role_of_lineFeed {l : Lexeme} {rest : Text} (h : Delimited l rest)
    (hhead : l.text.head? = some '\n') : l.role = .blank := by
  obtain ⟨cs, ht⟩ := List.head?_eq_some_iff.mp hhead
  have hfirst := h.takeFirst_eq (congrArg (· ++ rest) ht)
  exact congrArg (fun taken => taken.1.role) hfirst.symm

/-- What is wrong with a source is wrong with a stretch of it, which does not begin with a line
feed, and is reported on the line on which the stretch ends. -/
theorem exists_of_mem_diagnostics {source : Text} {d : Diagnostic} (h : d ∈ diagnostics source) :
    ∃ before text after : Text, source = before ++ text ++ after ∧ text ≠ [] ∧
      text.head? ≠ some '\n' ∧ d.line = 1 + (before ++ text).lineFeeds ∧
      d.span = some ⟨before.length, before.length + text.length⟩ := by
  obtain ⟨e, he, hd⟩ := List.mem_filterMap.mp h
  obtain ⟨before, after, hsource, hstart, hline, hdelimited⟩ := exists_of_mem_scan he
  cases hrole : e.lexeme.role with
  | fault fault =>
    rw [Element.diagnostic?, hrole] at hd
    obtain rfl := Option.some.inj hd
    refine ⟨before, e.lexeme.text, after, hsource, hdelimited.text_ne_nil, fun hhead => ?_, hline,
      by rw [Element.span, Element.stop, hstart]⟩
    rw [hdelimited.role_of_lineFeed hhead] at hrole
    cases hrole
  | _ => simp [Element.diagnostic?, hrole] at hd

/-- A diagnostic is shown as a snippet that marks its span. The header has the row and the column of
the first character marked, and the note has the line of the diagnostic. The column counts the
characters since the last line break in front of the span. -/
structure Diagnostic.IsShown (d : Diagnostic) (source origin : Text) (color : Bool)
    (x : Snippet.Content) (row column : Nat) : Prop where
  span_eq : d.span = some x.span
  snippet?_eq : d.snippet? source origin = some x
  render_eq : d.render source origin color = Snippet.writeRows color x.rows
  render_ne : d.render source origin color ≠ d.text ++ ['\n']
  rows_eq : ∃ title middle,
    x.rows = title :: x.header origin row column :: middle ++ [x.note d.line, [x.foot]]
  row_eq : row + Text.lineFeeds (x.span.textOf source) =
    d.line + Snippet.otherBreaks source x.span.start
  column_eq : column =
    1 + ((source.take x.span.start).rtakeWhile (!Snippet.isLineBreak ·)).length

/-- What is wrong with a source is shown where it is, whatever name the source has. -/
theorem exists_isShown {source : Text} {d : Diagnostic} (h : d ∈ diagnostics source)
    (origin : Text) (color : Bool) :
    ∃ x row column, d.IsShown source origin color x row column := by
  obtain ⟨before, text, after, rfl, hne, hhead, hline, hspan⟩ := exists_of_mem_diagnostics h
  have hpos := List.length_pos_iff.mpr hne
  have hlocated : d.located? (before ++ text ++ after) =
      some ⟨before.length, before.length + text.length⟩ := by
    rw [Diagnostic.located?_of_span hspan]
    exact Span.fit?_of_lt (Nat.lt_add_of_pos_right hpos) (by simp)
  have hsnippet := d.snippet?_eq (before ++ text ++ after) origin hlocated
  obtain ⟨hrender, hother⟩ := Diagnostic.render_of_snippet? hsnippet color
  have hfront : (before ++ text ++ after).take before.length = before := by simp
  have htext : Span.textOf ⟨before.length, before.length + text.length⟩
      (before ++ text ++ after) = text := by simp [Span.textOf]
  have hplace := Snippet.place_length_append before
    (List.append_ne_nil_of_left_ne_nil hne after) (by rwa [List.head?_append_of_ne_nil _ hne])
  rw [← List.append_assoc] at hplace
  obtain ⟨hrow, hcolumn⟩ := hplace
  refine ⟨_, _, _, hspan, hsnippet, hrender, hother, Snippet.Content.exists_rows_eq _, ?_, ?_⟩
  · unfold Snippet.Content.first
    dsimp only
    rw [hrow, htext, hline, Text.lineFeeds_append]
    omega
  · unfold Snippet.Content.first
    dsimp only
    rw [hcolumn, hfront, Nat.add_comm]

namespace Console

/-- A console without a log keeps its settings in every call, and its channel only takes more. -/
theorem exists_wrote_handle {c : Console} (hlog : c.log.filter = .off) (call : Call) :
    ∃ t, Wrote c t (Reporter.handle c call) := by
  cases call with
  | begin source => exact ⟨[], wrote_begin c source⟩
  | emit d => exact ⟨_, wrote_emit hlog d⟩
  | reset => exact ⟨[], rfl, rfl, rfl, (Channel.keep_nil _).symm⟩
  | note event =>
    have hsame : Reporter.handle c (.note event) = c := note_of_off hlog event
    exact ⟨[], by rw [hsame]; exact .refl c⟩

/-- So it does all through a session. -/
theorem exists_wrote_session {c : Console} (hlog : c.log.filter = .off) (steps : List Step) :
    ∀ c' ∈ c :: (session c steps).map Prod.snd, ∃ t, Wrote c t c' := by
  intro c' hc'
  obtain rfl | hc' := List.mem_cons.mp hc'
  · exact ⟨[], .refl c'⟩
  · obtain ⟨p, hp, rfl⟩ := List.mem_map.mp hc'
    have hstep (r : Console) (call : Call) (h : ∃ t, Wrote c t r) :
        ∃ t, Wrote c t (Reporter.handle r call) := by
      obtain ⟨t, ht⟩ := h
      obtain ⟨u, hu⟩ := exists_wrote_handle (ht.log_eq ▸ hlog) call
      exact ⟨t ++ u, ht.trans hu⟩
    exact forall_mem_session hstep ⟨[], .refl c⟩ steps p hp

/-- In a run, a console that is to present snippets presents every diagnostic of the source as one,
whatever it has been told before, and writes as many bytes of them as its channel takes.
The row of the header is the line of the note for a diagnostic within a line of a source that knows
no line breaks but line feeds, with or without a carriage return. -/
theorem run_snippets (channel : Channel) (color : Bool) (origin : Text) (steps : List Step)
    (source : Text) (output : Channel) :
    let fresh := Console.new channel (.pretty color) origin
    let emitted := emissions (scanCalls source)
    let written := Utf8.encode (emitted.flatMap fun d => d.render source origin color)
    (∀ console ∈ fresh :: (session fresh steps).map Prod.snd,
      (run source console output).reporter.channel.kept.toList =
        console.channel.kept.toList ++ console.channel.room.elim written written.take) ∧
    ∀ d ∈ emitted, ∃ x row column, d.IsShown source origin color x row column ∧
      ((∀ position, Snippet.isOtherBreak source position = false) →
        '\n' ∉ x.span.textOf source → row = d.line) := by
  intro fresh emitted written
  constructor
  · intro console hconsole
    obtain ⟨t, ht⟩ := exists_wrote_session rfl steps console hconsole
    have hlog : console.log.filter = .off := by
      rw [ht.log_eq]
      rfl
    have hrun := (wrote_run hlog source output).channel_eq
    rw [ht.style_eq, ht.origin_eq, report, ← emissions_scanCalls] at hrun
    rw [hrun]
    exact Channel.kept_keep_eq _ _
  · intro d hd
    rw [show emitted = diagnostics source from emissions_scanCalls source] at hd
    obtain ⟨x, row, column, hshown⟩ := exists_isShown hd origin color
    refine ⟨x, row, column, hshown, fun hbreaks hfree => ?_⟩
    have hrow := hshown.row_eq
    have hother : Snippet.otherBreaks source x.span.start = 0 := by
      simp [Snippet.otherBreaks, hbreaks]
    rw [Text.lineFeeds_of_not_mem hfree, hother] at hrow
    exact hrow

/-- Two carriage returns are line breaks of a snippet, but not of a scan. The string behind them has
no closing quote, so it is reported on the line of its end. -/
theorem run_snippets_returns : ∃ x,
    Diagnostic.IsShown ⟨2, [], Fault.unterminatedString.message, some ⟨2, 5⟩⟩
      ['\r', '\r', '"', '\n', 'a'] ['o'] true x 3 1 := by
  have hcut : Lexeme.cut ['\r', '\r', '"', '\n', 'a'] = [⟨['\r'], .blank⟩, ⟨['\r'], .blank⟩,
      ⟨['"', '\n', 'a'], .fault .unterminatedString⟩] :=
    Lexeme.cut_eq_iff.mpr ⟨⟨.blank rfl, .blank rfl, .unterminated (by decide), trivial⟩, rfl⟩
  have hemitted : emissions (scanCalls ['\r', '\r', '"', '\n', 'a']) =
      [⟨2, [], Fault.unterminatedString.message, some ⟨2, 5⟩⟩] := by
    rw [emissions_scanCalls, diagnostics, scan, hcut]
    rfl
  obtain ⟨-, hall⟩ :=
    run_snippets .unlimited true ['o'] [] ['\r', '\r', '"', '\n', 'a'] .unlimited
  obtain ⟨x, row, column, hshown, -⟩ := hall _ (by rw [hemitted]; exact List.mem_singleton_self _)
  have hspan : x.span = ⟨2, 5⟩ := (Option.some.inj hshown.span_eq).symm
  have hrow := hshown.row_eq
  have hcolumn := hshown.column_eq
  rw [hspan] at hrow hcolumn
  obtain rfl : row = 3 := Nat.add_right_cancel hrow
  obtain rfl : column = 1 := hcolumn
  exact ⟨x, hshown⟩

end Console

end LoxFrontEnd
