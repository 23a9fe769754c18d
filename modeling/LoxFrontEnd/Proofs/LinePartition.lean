import LoxFrontEnd.Proofs.Location
import LoxFrontEnd.Proofs.Tiling

/-!
# Lines take up a source

The spans found for the line numbers of a source lie one behind the other, from its start to its
end, with one line feed between each two of them and none in any. So the lines joined by line feeds
are the source (`ofLine?_partitions`).
-/
namespace LoxFrontEnd

namespace Text

theorem eq_nil_of_lineFeeds_eq {s t : Text} (hfeeds : Text.lineFeeds (s ++ t) = s.lineFeeds)
    (hlast : ∀ c ∈ (s ++ t).getLast?, c = '\n') : t = [] := by
  by_contra hne
  obtain ⟨init, c, rfl⟩ := (List.eq_nil_or_concat' t).resolve_left hne
  obtain rfl : c = '\n' := hlast c (by simp)
  have hpos : 0 < Text.lineFeeds (init ++ ['\n']) := List.count_pos_iff.mpr (by simp)
  rw [lineFeeds_append] at hfeeds
  omega

/-- A source has only one beginning with a given number of line feeds that a line can follow. -/
theorem eq_of_lineFeeds_eq {s s' t t' : Text} (h : s ++ t = s' ++ t')
    (hfeeds : s.lineFeeds = s'.lineFeeds) (hs : ∀ c ∈ s.getLast?, c = '\n')
    (hs' : ∀ c ∈ s'.getLast?, c = '\n') : s = s' := by
  obtain ⟨more, rfl, -⟩ | ⟨more, rfl, -⟩ := List.append_eq_append_iff.mp h
  · rw [eq_nil_of_lineFeeds_eq hfeeds.symm hs', List.append_nil]
  · rw [eq_nil_of_lineFeeds_eq hfeeds hs, List.append_nil]

/-- In front of a line are the line before it and a line feed. -/
theorem IsLine.before_next {source before line after before' line' after' : Text} {number : Nat}
    (h : IsLine source number before line after)
    (h' : IsLine source (number + 1) before' line' after') :
    before' = before ++ line ++ ['\n'] ∧ after.head? = some '\n' := by
  have hne : after ≠ [] := by
    have hfeeds := h'.lineFeeds_eq
    rw [Ne, h.after_eq_nil_iff]
    omega
  obtain ⟨c, cs, rfl⟩ := List.exists_cons_of_ne_nil hne
  obtain rfl : c = '\n' := h.ends c rfl
  refine ⟨?_, rfl⟩
  have hsource : before' ++ (line' ++ after') = before ++ line ++ ['\n'] ++ cs := by
    simpa using h'.source_eq.symm.trans h.source_eq
  refine eq_of_lineFeeds_eq hsource ?_ h'.begins (by simp)
  have hnumber := h'.number_eq
  rw [h.number_eq] at hnumber
  rw [List.append_assoc, lineFeeds_append, lineFeeds_line h.free, lineFeeds_nil]
  omega

end Text

namespace Span

/-- Spans of a source by line numbers, which take up the source but for a line feed between each two
of them. -/
structure Partitions (source : Text) (lineAt : Nat → Option Span) : Prop where
  isSome_iff : ∀ number, (lineAt number).isSome ↔ 1 ≤ number ∧ number ≤ source.lineFeeds + 1
  start_first : ∀ s ∈ lineAt 1, s.start = 0
  stop_last : ∀ s ∈ lineAt (source.lineFeeds + 1), s.stop = source.length
  start_next : ∀ number, ∀ s ∈ lineAt number, ∀ t ∈ lineAt (number + 1), t.start = s.stop + 1
  lineFeed_between : ∀ number, ∀ s ∈ lineAt number, ∀ t ∈ lineAt (number + 1),
    source[s.stop]? = some '\n'
  free : ∀ number, ∀ s ∈ lineAt number, s.start ≤ s.stop ∧ s.stop ≤ source.length ∧
    ∀ i, s.start ≤ i → i < s.stop → source[i]? ≠ some '\n'
  joined : ∃ lines : List Text, (∀ i, lines[i]? = (lineAt (i + 1)).map (textOf · source)) ∧
    ['\n'].intercalate lines = source

theorem textOf_append (before text after : Text) :
    textOf ⟨before.length, before.length + text.length⟩ (before ++ text ++ after) = text := by
  simp [textOf]

/-- The texts of the lines joined by line feeds are the text again. -/
theorem intercalate_linesFrom (before t : Text) :
    ['\n'].intercalate ((linesFrom before.length before.length t).map
      (textOf · (before ++ t))) = t := by
  induction t using Text.line_induction generalizing before with
  | last line hline =>
    have htext := textOf_append before line []
    rw [List.append_nil] at htext
    rw [linesFrom_of_not_mem hline, List.map_singleton, List.intercalate_singleton, htext]
  | cons line t hline ih =>
    have hrest := ih (before ++ line ++ ['\n'])
    have hlength : (before ++ line ++ ['\n']).length = before.length + line.length + 1 := by
      rw [List.length_append, List.length_append, List.length_singleton]
    have hsource : before ++ line ++ ['\n'] ++ t = before ++ (line ++ '\n' :: t) := by simp
    rw [hlength, hsource] at hrest
    have hfirst := textOf_append before line ('\n' :: t)
    rw [List.append_assoc] at hfirst
    have hne : linesFrom (before.length + line.length + 1) (before.length + line.length + 1) t ≠
        [] := by
      rw [← List.length_pos_iff, length_linesFrom]
      omega
    rw [linesFrom_append_lineFeed hline, List.map_cons,
      List.intercalate_cons_of_ne_nil (by simpa using hne), hrest, hfirst]
    simp

/-- The lines of a source take it up but for the line feeds between them. -/
theorem ofLine?_partitions (source : Text) : Partitions source (ofLine? source) where
  isSome_iff number := by
    rw [Option.isSome_iff_ne_none, Ne, ofLine?_eq_none_iff]
    omega
  start_first := by
    intro s hs
    obtain ⟨before, line, after, hline, rfl⟩ := isLine_of_ofLine? hs
    have hnumber := hline.number_eq
    have hempty : before = [] := Text.eq_nil_of_lineFeeds_eq (s := []) (by simp; omega) hline.begins
    simp [hempty]
  stop_last := by
    intro s hs
    obtain ⟨before, line, after, hline, rfl⟩ := isLine_of_ofLine? hs
    obtain rfl : after = [] := hline.after_eq_nil_iff.mpr (by omega)
    simp [hline.length_eq]
  start_next := by
    intro number s hs t ht
    obtain ⟨before, line, after, hline, rfl⟩ := isLine_of_ofLine? hs
    obtain ⟨before', line', after', hline', rfl⟩ := isLine_of_ofLine? ht
    simp only [(hline.before_next hline').1, List.length_append, List.length_singleton]
  lineFeed_between := by
    intro number s hs t ht
    obtain ⟨before, line, after, hline, rfl⟩ := isLine_of_ofLine? hs
    obtain ⟨before', line', after', hline', rfl⟩ := isLine_of_ofLine? ht
    rw [hline.source_eq, List.getElem?_append_right (by simp)]
    simpa [← List.head?_eq_getElem?] using (hline.before_next hline').2
  free := by
    intro number s hs
    obtain ⟨before, line, after, hline, rfl⟩ := isLine_of_ofLine? hs
    have hlength := hline.length_eq
    refine ⟨by simp, by simp; omega, ?_⟩
    intro i hlow hhigh hi
    dsimp only at hlow hhigh
    rw [hline.source_eq, List.getElem?_append_left (by simp; omega),
      List.getElem?_append_right hlow] at hi
    exact hline.free (List.mem_of_getElem? hi)
  joined := by
    refine ⟨(lines source).map (textOf · source), ?_, intercalate_linesFrom [] source⟩
    intro i
    simp [ofLine?]

/-- Positions count characters, of which some take several bytes. -/
example : ofLine? ['c', 'd', 'é', '\n', '\n', 'f'] 3 = some ⟨5, 6⟩ := by decide

end Span

end LoxFrontEnd
