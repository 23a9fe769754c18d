import LoxFrontEnd.Span
import Mathlib.Data.List.Basic

/-!
# Spans of lines

A source is a last line, or a line with a line feed behind it in front of the other lines
(`Text.line_induction`). The span found for a line number holds the line with that number
(`exists_isLine`), and there is none exactly if the source has no such line. Looking for it through
the pieces between line feeds, in machine words, comes to the same and never overflows
(`seekLine?_eq`).
-/
namespace LoxFrontEnd

namespace Text

/-- A text is a last line, or a line and a line feed in front of a text. -/
@[elab_as_elim]
theorem line_induction {motive : Text → Prop} (last : ∀ line, '\n' ∉ line → motive line)
    (cons : ∀ line t, '\n' ∉ line → motive t → motive (line ++ '\n' :: t)) (t : Text) :
    motive t := by
  -- The line that has begun in front of `t` is generalized.
  suffices h : ∀ begun : Text, '\n' ∉ begun → motive (begun ++ t) from h [] (by simp)
  induction t with
  | nil =>
    intro begun hbegun
    rw [List.append_nil]
    exact last begun hbegun
  | cons c cs ih =>
    intro begun hbegun
    by_cases hc : c = '\n'
    · subst hc
      exact cons begun cs hbegun (ih [] (by simp))
    · have hlonger := ih (begun ++ [c]) (by simpa [hbegun] using Ne.symm hc)
      rwa [List.append_assoc, List.singleton_append] at hlonger

theorem lineFeeds_of_not_mem {t : Text} (h : '\n' ∉ t) : t.lineFeeds = 0 :=
  List.count_eq_zero.mpr h

theorem lineFeeds_line {line : Text} (h : '\n' ∉ line) (t : Text) :
    Text.lineFeeds (line ++ '\n' :: t) = t.lineFeeds + 1 := by
  rw [lineFeeds_append, lineFeeds_of_not_mem h, Nat.zero_add]
  exact List.count_cons_self

theorem cutAt_of_not_mem {mark : Char} {piece : Text} (h : mark ∉ piece) :
    cutAt mark piece = [piece] := by
  induction piece with
  | nil => rfl
  | cons c cs ih =>
    rw [List.mem_cons, not_or] at h
    obtain ⟨hc, hcs⟩ := h
    simp [cutAt, Ne.symm hc, ih hcs]

theorem cutAt_append_mark {mark : Char} {piece : Text} (h : mark ∉ piece) (t : Text) :
    cutAt mark (piece ++ mark :: t) = piece :: cutAt mark t := by
  induction piece with
  | nil => simp [cutAt]
  | cons c cs ih =>
    rw [List.mem_cons, not_or] at h
    obtain ⟨hc, hcs⟩ := h
    simp [cutAt, Ne.symm hc, ih hcs]

/-- A line of a source with all that stands in front of it and behind it. It begins where the source
does or behind a line feed, and ends where the source does or in front of one. -/
structure IsLine (source : Text) (number : Nat) (before line after : Text) : Prop where
  source_eq : source = before ++ line ++ after
  number_eq : number = before.lineFeeds + 1
  begins : ∀ c ∈ before.getLast?, c = '\n'
  free : '\n' ∉ line
  ends : ∀ c ∈ after.head?, c = '\n'

theorem isLine_last {line : Text} (h : '\n' ∉ line) : IsLine line 1 [] line [] :=
  ⟨by simp, rfl, by simp, h, by simp⟩

theorem isLine_first {line : Text} (h : '\n' ∉ line) (t : Text) :
    IsLine (line ++ '\n' :: t) 1 [] line ('\n' :: t) :=
  ⟨by simp, rfl, by simp, h, by simp⟩

/-- A line stays a line if another one is put in front. -/
theorem IsLine.behind {first t before line after : Text} (hfirst : '\n' ∉ first) {number : Nat}
    (h : IsLine t number before line after) :
    IsLine (first ++ '\n' :: t) (number + 1) (first ++ '\n' :: before) line after where
  source_eq := by simp [h.source_eq]
  number_eq := by rw [lineFeeds_line hfirst, h.number_eq]
  begins := by
    intro c hc
    obtain rfl | ⟨init, d, rfl⟩ := List.eq_nil_or_concat' before
    · rw [List.getLast?_concat, Option.mem_some_iff] at hc
      exact hc.symm
    · rw [← List.cons_append, ← List.append_assoc, List.getLast?_concat] at hc
      refine h.begins c ?_
      rwa [List.getLast?_concat]
  free := h.free
  ends := h.ends

/-- The last line is empty if the source is, or if it ends with a line feed. -/
theorem IsLine.eq_nil_iff {source before line : Text} {number : Nat}
    (h : IsLine source number before line []) :
    line = [] ↔ ∀ c ∈ source.getLast?, c = '\n' := by
  rw [h.source_eq, List.append_nil]
  constructor
  · rintro rfl
    simpa using h.begins
  · intro hlast
    by_contra hne
    obtain ⟨init, c, rfl⟩ := (List.eq_nil_or_concat' line).resolve_left hne
    have hc := hlast c (by simp)
    exact h.free (by simp [hc])

end Text

namespace Span

theorem linesFrom_of_not_mem {line : Text} (h : '\n' ∉ line) (start position : Nat) :
    linesFrom start position line = [⟨start, position + line.length⟩] := by
  induction line generalizing position with
  | nil => rfl
  | cons c cs ih =>
    rw [List.mem_cons, not_or] at h
    obtain ⟨hc, hcs⟩ := h
    rw [linesFrom, if_neg (Ne.symm hc), ih hcs, List.length_cons, Nat.add_right_comm, Nat.add_assoc]

theorem linesFrom_append_lineFeed {line : Text} (h : '\n' ∉ line) (start position : Nat)
    (t : Text) : linesFrom start position (line ++ '\n' :: t) =
      ⟨start, position + line.length⟩ ::
        linesFrom (position + line.length + 1) (position + line.length + 1) t := by
  induction line generalizing position with
  | nil => rfl
  | cons c cs ih =>
    rw [List.mem_cons, not_or] at h
    obtain ⟨hc, hcs⟩ := h
    rw [List.cons_append, linesFrom, if_neg (Ne.symm hc), ih hcs, List.length_cons,
      Nat.add_right_comm position 1, Nat.add_assoc position]

theorem exists_isLine_linesFrom {t : Text} {i : Nat} (h : i ≤ t.lineFeeds) (start : Nat) :
    ∃ before line after, Text.IsLine t (i + 1) before line after ∧
      (linesFrom start start t)[i]? =
        some ⟨start + before.length, start + before.length + line.length⟩ := by
  induction t using Text.line_induction generalizing i start with
  | last line hline =>
    rw [Text.lineFeeds_of_not_mem hline] at h
    obtain rfl : i = 0 := by omega
    exact ⟨[], line, [], Text.isLine_last hline, by simp [linesFrom_of_not_mem hline]⟩
  | cons first t hfirst ih =>
    rw [Text.lineFeeds_line hfirst] at h
    rw [linesFrom_append_lineFeed hfirst]
    cases i with
    | zero => exact ⟨[], first, '\n' :: t, Text.isLine_first hfirst t, by simp⟩
    | succ i =>
      obtain ⟨before, line, after, hline, hspan⟩ := ih (Nat.le_of_succ_le_succ h)
        (start + first.length + 1)
      refine ⟨first ++ '\n' :: before, line, after, hline.behind hfirst, ?_⟩
      rw [List.getElem?_cons_succ, hspan]
      simp only [List.length_append, List.length_cons, Option.some.injEq, Span.mk.injEq]
      omega

/-- The span of a line holds this line. -/
theorem exists_isLine {source : Text} {number : Nat} (hpos : number ≠ 0)
    (hle : number ≤ 1 + source.lineFeeds) :
    ∃ before line after, Text.IsLine source number before line after ∧
      ofLine? source number = some ⟨before.length, before.length + line.length⟩ := by
  obtain ⟨i, rfl⟩ := Nat.exists_eq_succ_of_ne_zero hpos
  obtain ⟨before, line, after, hline, hspan⟩ :=
    exists_isLine_linesFrom (t := source) (i := i) (by omega) 0
  refine ⟨before, line, after, hline, ?_⟩
  rw [ofLine?, if_neg hpos, lines, Nat.succ_sub_one, hspan, Nat.zero_add]

theorem ofLine?_eq_none_iff {source : Text} {number : Nat} :
    ofLine? source number = none ↔ number = 0 ∨ 1 + source.lineFeeds < number := by
  have hlength := length_lines source
  unfold ofLine?
  split_ifs with h
  · simp [h]
  · rw [List.getElem?_eq_none_iff]
    omega

/-- A line that is found is one of the source. -/
theorem isLine_of_ofLine? {source : Text} {number : Nat} {span : Span}
    (h : ofLine? source number = some span) : ∃ before line after,
      Text.IsLine source number before line after ∧
      span = ⟨before.length, before.length + line.length⟩ := by
  have hthere : ¬(number = 0 ∨ 1 + source.lineFeeds < number) := by
    rw [← ofLine?_eq_none_iff, h]
    simp
  obtain ⟨hpos, hle⟩ := not_or.mp hthere
  obtain ⟨before, line, after, hline, hspan⟩ := exists_isLine hpos (Nat.le_of_not_lt hle)
  exact ⟨before, line, after, hline, Option.some.inj (h.symm.trans hspan)⟩

end Span

/-- The sum of two numbers, if a machine word has room for it. -/
def Word.add? (a b : Nat) : Option Nat := if a + b < UInt64.size then some (a + b) else none

theorem Word.add?_of_lt {a b : Nat} (h : a + b < UInt64.size) : Word.add? a b = some (a + b) :=
  if_pos h

namespace Span

/-- Looks for a line in machine words, piece by piece, where a piece is what stands between line
feeds: `number` pieces are behind, and the next one begins at `start`. There is no answer if a sum
has no room in a word. -/
def seekLine? (line number start : Nat) : List Text → Option (Option Span)
  | [] => some none
  | piece :: pieces => do
    let next ← Word.add? number 1
    if next = line then
      let stop ← Word.add? start piece.length
      return some ⟨start, stop⟩
    else
      let length ← Word.add? piece.length 1
      let start ← Word.add? start length
      seekLine? line next start pieces

/-- Nothing overflows while a line is looked for, as no sum is more than one past the end of the
source. -/
theorem seekLine?_cutAt {t : Text} {line number start : Nat} (hnumber : number ≤ start)
    (hstart : start + t.length + 1 < UInt64.size) :
    seekLine? line number start (Text.cutAt '\n' t) =
      some (if line ≤ number then none else (linesFrom start start t)[line - (number + 1)]?) := by
  induction t using Text.line_induction generalizing number start with
  | last piece hpiece =>
    rw [Text.cutAt_of_not_mem hpiece, linesFrom_of_not_mem hpiece, seekLine?,
      Word.add?_of_lt (by omega)]
    simp only [Option.bind_eq_bind, Option.bind_some]
    split_ifs with hline hle
    · omega
    · rw [Word.add?_of_lt (by omega)]
      simp [hline.symm]
    · rw [Word.add?_of_lt (by omega), Option.bind_some, Word.add?_of_lt (by omega)]
      rfl
    · rw [Word.add?_of_lt (by omega), Option.bind_some, Word.add?_of_lt (by omega),
        List.getElem?_eq_none (by simp; omega)]
      rfl
  | cons piece t hpiece ih =>
    rw [List.length_append, List.length_cons] at hstart
    rw [Text.cutAt_append_mark hpiece, linesFrom_append_lineFeed hpiece, seekLine?,
      Word.add?_of_lt (by omega)]
    simp only [Option.bind_eq_bind, Option.bind_some]
    have hlength : start + (piece.length + 1) = start + piece.length + 1 := by omega
    split_ifs with hline hle
    · omega
    · rw [Word.add?_of_lt (by omega)]
      simp [hline.symm]
    · rw [Word.add?_of_lt (by omega), Option.bind_some, Word.add?_of_lt (by omega),
        Option.bind_some, hlength, ih (by omega) (by omega), if_pos (by omega)]
    · rw [Word.add?_of_lt (by omega), Option.bind_some, Word.add?_of_lt (by omega),
        Option.bind_some, hlength, ih (by omega) (by omega), if_neg (by omega)]
      obtain ⟨i, rfl⟩ := Nat.exists_eq_add_of_lt (show number + 1 < line by omega)
      have hindex : number + 1 + i + 1 - (number + 1) = i + 1 := by omega
      have hindex' : number + 1 + i + 1 - (number + 1 + 1) = i := by omega
      rw [hindex, hindex', List.getElem?_cons_succ]

/-- A search in machine words finds the line. -/
theorem seekLine?_eq {source : Text} (h : source.length + 1 < UInt64.size) (line : Nat) :
    seekLine? line 0 0 (Text.cutAt '\n' source) = some (ofLine? source line) := by
  rw [seekLine?_cutAt (Nat.le_refl 0) (by omega)]
  simp only [ofLine?, lines, Nat.le_zero, Nat.zero_add]

end Span

end LoxFrontEnd
