import LoxFrontEnd.Snippet.Layout
import LoxFrontEnd.Proofs.LineSpans

/-!
# Where a diagnostic is shown

A diagnostic is shown at its span, or else at its line, as far as the source has something there.
It is shown in plain form exactly if there is nothing (`IsNowhere`), and otherwise a snippet
underlines one character or more of the source (`Underlines`). The range is found without a sum
that a machine word has no room for (`render_located`).
-/
namespace LoxFrontEnd

namespace Span

theorem fit?_eq_none_iff {span : Span} {length : Nat} :
    span.fit? length = none ↔ length ≤ span.start := by
  simp [fit?]

theorem stop_of_fit? {span fitted : Span} {length : Nat} (h : span.fit? length = some fitted) :
    fitted.stop = max (min span.stop length) (span.start + 1) := by
  unfold fit? at h
  split at h
  · cases h
    rfl
  · cases h

/-- `fit?` in machine words. -/
def fitInWords? (span : Span) (length : Nat) : Option (Option Span) :=
  if span.start < length then do
    let next ← Word.add? span.start 1
    return some ⟨span.start, max (min span.stop length) next⟩
  else some none

theorem fitInWords?_eq (span : Span) {length : Nat} (h : length < UInt64.size) :
    span.fitInWords? length = some (span.fit? length) := by
  unfold fitInWords? fit?
  split
  · rw [Word.add?_of_lt (by omega)]
    rfl
  · rfl

end Span

namespace Text

theorem IsLine.lineFeeds_eq {source before line after : Text} {number : Nat}
    (h : IsLine source number before line after) :
    source.lineFeeds + 1 = number + after.lineFeeds := by
  rw [h.source_eq, h.number_eq, lineFeeds_append, lineFeeds_append, lineFeeds_of_not_mem h.free]
  omega

/-- There is something behind a line exactly if it is not the last one. -/
theorem IsLine.after_eq_nil_iff {source before line after : Text} {number : Nat}
    (h : IsLine source number before line after) : after = [] ↔ number = 1 + source.lineFeeds := by
  have hfeeds := h.lineFeeds_eq
  cases after with
  | nil =>
    rw [lineFeeds_nil] at hfeeds
    exact iff_of_true rfl (by omega)
  | cons c cs =>
    obtain rfl : c = '\n' := h.ends c rfl
    have hmore := lineFeeds_line (show '\n' ∉ ([] : Text) by simp) cs
    rw [List.nil_append] at hmore
    exact iff_of_false (by simp) (by omega)

theorem IsLine.length_eq {source before line after : Text} {number : Nat}
    (h : IsLine source number before line after) :
    source.length = before.length + line.length + after.length := by
  rw [h.source_eq, List.length_append, List.length_append]

end Text

namespace Diagnostic

/-- The source has nothing to show for a diagnostic: its span begins behind the source, or it has no
span and its line is not there, or is the last one and empty. -/
def IsNowhere (d : Diagnostic) (source : Text) : Prop :=
  match d.span with
  | some span => source.length ≤ span.start
  | none => d.line = 0 ∨ 1 + source.lineFeeds < d.line ∨
      d.line = 1 + source.lineFeeds ∧ ∀ c ∈ source.getLast?, c = '\n'

/-- What a snippet for a diagnostic underlines: one character or more of the source, from the start
of the span or of the line on. A span without characters is widened to the one at its start, and so
is an empty line, which has a line feed there. -/
structure Underlines (d : Diagnostic) (source : Text) (range : Span) : Prop where
  start_lt_stop : range.start < range.stop
  stop_le : range.stop ≤ source.length
  of_span : ∀ span, d.span = some span → range.start = span.start ∧
    (span.start < span.stop → range.stop = min span.stop source.length) ∧
    (span.stop ≤ span.start → range.stop = range.start + 1)
  of_line : d.span = none → ∃ before line after,
    Text.IsLine source d.line before line after ∧ range.start = before.length ∧
    (line ≠ [] → range.stop = before.length + line.length) ∧
    (line = [] → range.stop = range.start + 1 ∧ after.head? = some '\n')

section

variable {d : Diagnostic} {source : Text} {range : Span}

theorem located?_of_span {span : Span} (h : d.span = some span) :
    d.located? source = span.fit? source.length := by
  simp [located?, h]

theorem located?_of_line (h : d.span = none) :
    d.located? source = (Span.ofLine? source d.line).bind (·.fit? source.length) := by
  simp [located?, h]

theorem located?_eq_none_iff : d.located? source = none ↔ d.IsNowhere source := by
  unfold IsNowhere
  cases hspan : d.span with
  | some span => rw [located?_of_span hspan, Span.fit?_eq_none_iff]
  | none =>
    rw [located?_of_line hspan]
    by_cases hthere : d.line = 0 ∨ 1 + source.lineFeeds < d.line
    · rw [Span.ofLine?_eq_none_iff.mpr hthere]
      exact iff_of_true rfl (or_assoc.mp (.inl hthere))
    · obtain ⟨hpos, hle⟩ := not_or.mp hthere
      obtain ⟨before, line, after, hline, hofLine⟩ := Span.exists_isLine hpos (Nat.le_of_not_lt hle)
      have hlength := hline.length_eq
      rw [hofLine, Option.bind_some, Span.fit?_eq_none_iff]
      -- A line begins behind the source if there is neither anything on it nor behind it.
      constructor
      · intro hstart
        dsimp only at hstart
        obtain rfl : after = [] := List.eq_nil_of_length_eq_zero (by omega)
        have hempty : line = [] := List.eq_nil_of_length_eq_zero (by omega)
        exact .inr (.inr ⟨hline.after_eq_nil_iff.mp rfl, hline.eq_nil_iff.mp hempty⟩)
      · rintro (hzero | hmore | ⟨hlast, hend⟩)
        · exact absurd hzero hpos
        · exact absurd hmore hle
        · obtain rfl : after = [] := hline.after_eq_nil_iff.mpr hlast
          obtain rfl : line = [] := hline.eq_nil_iff.mpr hend
          simpa using Nat.le_of_eq hlength

/-- What a diagnostic is located at is what its snippet is to underline. -/
theorem underlines_of_located? (h : d.located? source = some range) :
    d.Underlines source range := by
  obtain ⟨given, hgiven, hfit⟩ := Option.bind_eq_some_iff.mp h
  obtain ⟨hstart, hlt, hle⟩ := Span.fit?_eq_some hfit
  have hstop := Span.stop_of_fit? hfit
  refine ⟨hlt, hle, fun span hspan => ?_, fun hspan => ?_⟩
  · obtain rfl : span = given := by simpa [hspan] using hgiven
    exact ⟨hstart, fun _ => by omega, fun _ => by omega⟩
  · rw [hspan, Option.none_or] at hgiven
    obtain ⟨before, line, after, hline, rfl⟩ := Span.isLine_of_ofLine? hgiven
    have hlength := hline.length_eq
    dsimp only at hstart hstop
    refine ⟨before, line, after, hline, hstart, fun hne => ?_, ?_⟩
    · have := List.length_pos_iff.mpr hne
      omega
    · rintro rfl
      refine ⟨by simp at hstop; omega, ?_⟩
      cases after with
      | nil => simp at hlength; omega
      | cons c cs => rw [List.head?_cons, hline.ends c rfl]

example : located? ⟨2, [], [], none⟩ ['a', '\n', '\n', 'b'] = some ⟨2, 3⟩ := by decide

/-- `located?` in machine words. -/
def locatedInWords? (d : Diagnostic) (source : Text) : Option (Option Span) := do
  let given ← match d.span with
    | some span => some (some span)
    | none => Span.seekLine? d.line 0 0 (Text.cutAt '\n' source)
  match given with
  | some span => span.fitInWords? source.length
  | none => some none

/-- Nothing overflows while a diagnostic is located. -/
theorem locatedInWords?_eq (d : Diagnostic) (h : source.length + 1 < UInt64.size) :
    d.locatedInWords? source = some (d.located? source) := by
  have hfit (span : Span) := span.fitInWords?_eq (Nat.lt_of_succ_lt h)
  unfold locatedInWords?
  cases hspan : d.span with
  | some span => exact (hfit span).trans (congrArg some (located?_of_span hspan).symm)
  | none =>
    rw [located?_of_line hspan, Span.seekLine?_eq h]
    cases Span.ofLine? source d.line with
    | none => rfl
    | some span => exact hfit span

end

theorem head?_text (d : Diagnostic) : (d.text ++ ['\n']).head? = some '[' := by
  unfold text
  simp only [List.append_assoc]
  rfl

end Diagnostic

/-- A snippet does not begin like the plain form of a diagnostic. -/
theorem Snippet.head?_writeRows (color : Bool) (x : Content) :
    (writeRows color x.rows).head? = some (if color then '\x1b' else 'E') := by
  unfold Content.rows writeRows writeRow
  cases color <;> rfl

namespace Diagnostic

theorem snippet?_eq (d : Diagnostic) (source filename : Text) {range : Span}
    (h : d.located? source = some range) : d.snippet? source filename =
      some ⟨filename, d.title, d.message, d.line, Snippet.breakLines source, range⟩ := by
  rw [snippet?, h, Option.map_some]

theorem render_of_snippet? {d : Diagnostic} {source filename : Text} {x : Snippet.Content}
    (h : d.snippet? source filename = some x) (color : Bool) :
    d.render source filename color = Snippet.writeRows color x.rows ∧
      d.render source filename color ≠ d.text ++ ['\n'] := by
  have hrender : d.render source filename color = Snippet.writeRows color x.rows := by
    rw [render, h]
  refine ⟨hrender, fun hplain => ?_⟩
  have hhead := congrArg List.head? (hrender.symm.trans hplain)
  rw [Snippet.head?_writeRows, head?_text] at hhead
  cases color <;> exact absurd hhead (by decide)

/-- A diagnostic is shown in plain form exactly if the source has nothing to show for it. In every
other case a snippet underlines the part of the source that the diagnostic is about. The range
underlined is found in machine words too, without an overflow, in every source that has room in
memory. -/
theorem render_located (d : Diagnostic) (source filename : Text) (color : Bool) :
    (d.render source filename color = d.text ++ ['\n'] ↔ d.IsNowhere source) ∧
    (¬d.IsNowhere source → ∃ x, d.snippet? source filename = some x ∧
      d.render source filename color = Snippet.writeRows color x.rows ∧
      d.Underlines source x.span) ∧
    (source.length + 1 < UInt64.size →
      d.locatedInWords? source = some ((d.snippet? source filename).map Snippet.Content.span)) := by
  refine ⟨?_, fun hthere => ?_, fun hsize => ?_⟩
  · rw [← located?_eq_none_iff]
    cases h : d.located? source with
    | none => simp [render, snippet?, h]
    | some range =>
      exact iff_of_false (render_of_snippet? (d.snippet?_eq source filename h) color).2 (by simp)
  · obtain ⟨range, h⟩ := Option.ne_none_iff_exists'.mp (mt located?_eq_none_iff.mp hthere)
    have hsnippet := d.snippet?_eq source filename h
    exact ⟨_, hsnippet, (render_of_snippet? hsnippet color).1, underlines_of_located? h⟩
  · rw [locatedInWords?_eq d hsize, snippet?, Option.map_map]
    cases d.located? source <;> rfl

end Diagnostic

end LoxFrontEnd
