import LoxFrontEnd.Snippet.Lines
import Mathlib.Data.List.DropRight
import Mathlib.Data.List.TakeWhile

/-!
# Places in a snippet

A snippet knows more line breaks than the line feeds that a scan counts. The row of a position
counts the line feeds in front of it and the breaks of the other kinds (`row_placeFrom`), and its
column counts the characters behind the last break of any kind (`column_placeFrom`). Between a
carriage return and its line feed only the row does.
-/
namespace LoxFrontEnd.Snippet

/-- A line break stands there that is neither a line feed nor the carriage return in front of
one. -/
def isOtherBreak (source : Text) (position : Nat) : Bool :=
  match source.drop position with
  | [] => false
  | c :: cs => isLineBreak c && c != '\n' && !(c == '\r' && cs.head? == some '\n')

/-- How many line breaks of other kinds stand in front of a position. -/
def otherBreaks (source : Text) (position : Nat) : Nat :=
  (List.range position).countP (isOtherBreak source)

theorem otherBreaks_cons (c : Char) (cs : Text) (position : Nat) :
    otherBreaks (c :: cs) (position + 1) =
      (isOtherBreak (c :: cs) 0).toNat + otherBreaks cs position := by
  have hshift : isOtherBreak (c :: cs) ∘ Nat.succ = isOtherBreak cs := rfl
  rw [otherBreaks, List.range_succ_eq_map, List.countP_cons, List.countP_map, hshift, otherBreaks]
  cases isOtherBreak (c :: cs) 0 <;> simp [Nat.add_comm]

/-- A line break counts once: as a line feed, or as one of the other kinds. -/
theorem lineFeeds_add_isOtherBreak {c : Char} {cs : Text} (h : isLineBreak c)
    (halone : ∀ rest, c = '\r' → cs = '\n' :: rest → False) :
    Text.lineFeeds [c] + (isOtherBreak (c :: cs) 0).toNat = 1 := by
  by_cases hc : c = '\n'
  · subst hc
    rfl
  · have hpair : ¬(c = '\r' ∧ cs.head? = some '\n') := by
      rintro ⟨hc', hhead⟩
      obtain ⟨rest, rfl⟩ := List.head?_eq_some_iff.mp hhead
      exact halone rest hc' rfl
    have hother : isOtherBreak (c :: cs) 0 = true := by
      simp only [isOtherBreak, List.drop_zero]
      simpa [h, hc, imp_iff_not_or] using hpair
    simp [hother, Text.lineFeeds, hc]

section

variable (row position : Nat) (c : Char) {line : Text} (lines : List Text)

theorem placeFrom_of_le {position : Nat} (h : line.length ≤ position) :
    placeFrom row (line :: lines) position =
      placeFrom (row + 1) lines (position - line.length) :=
  if_neg (Nat.not_lt.mpr h)

theorem row_placeFrom_extend : (placeFrom row (extend c (line :: lines)) (position + 1)).row =
    (placeFrom row (line :: lines) position).row := by
  simp only [extend, placeFrom, List.length_cons, Nat.add_lt_add_iff_right, Nat.add_sub_add_right]
  split <;> rfl

theorem column_placeFrom_le : (placeFrom row lines position).column ≤ position := by
  induction lines generalizing row position with
  | nil => exact Nat.le_refl position
  | cons line lines ih =>
    unfold placeFrom
    split
    · exact Nat.le_refl position
    · exact (ih (row + 1) (position - line.length)).trans (Nat.sub_le ..)

/-- A character in front moves what is on the first line. -/
theorem column_placeFrom_extend (hline : line ≠ []) :
    (placeFrom row (extend c (line :: lines)) (position + 1)).column =
      if (placeFrom row (line :: lines) position).column = position then position + 1
      else (placeFrom row (line :: lines) position).column := by
  simp only [extend, placeFrom, List.length_cons, Nat.add_lt_add_iff_right, Nat.add_sub_add_right]
  split
  · exact (if_pos rfl).symm
  · have hlater := column_placeFrom_le (row + 1) (position - line.length) lines
    have hpos := List.length_pos_iff.mpr hline
    rw [if_neg (by omega)]

end

theorem ne_nil_of_mem_breakLines {source line : Text} (h : line ∈ breakLines source) :
    line ≠ [] := by
  fun_induction breakLines source with
  | case1 => cases h
  | case2 cs ih =>
    obtain rfl | h := List.mem_cons.mp h
    · simp
    · exact ih h
  | case3 c cs _ _ ih =>
    obtain rfl | h := List.mem_cons.mp h
    · simp
    · exact ih h
  | case4 c cs _ _ ih =>
    cases hlines : breakLines cs with
    | nil => simp_all [extend]
    | cons first lines =>
      rw [hlines] at h ih
      obtain rfl | h := List.mem_cons.mp h
      · simp
      · exact ih (List.mem_cons_of_mem _ h)

/-- A text that is not empty has a first line, which is not empty. -/
theorem exists_breakLines_eq_cons {source : Text} (h : source ≠ []) :
    ∃ line lines, breakLines source = line :: lines ∧ line ≠ [] := by
  cases hlines : breakLines source with
  | nil =>
    have hjoin := join_breakLines source
    rw [hlines] at hjoin
    exact absurd hjoin.symm h
  | cons line lines =>
    exact ⟨line, lines, rfl, ne_nil_of_mem_breakLines (hlines ▸ List.mem_cons_self)⟩

/-- Every line break in front of a position takes it to the next row. A line feed inside of a pair
is on the row of its carriage return. -/
theorem row_placeFrom (row : Nat) {source : Text} {position : Nat} (h : position < source.length) :
    (placeFrom row (breakLines source) position).row =
      row + Text.lineFeeds (source.take position) + otherBreaks source position := by
  -- A pair counts by its line feed, a break by itself in one way or the other, and a character that
  -- is no break leaves the row as it is.
  fun_induction breakLines source generalizing row position with
  | case1 => cases h
  | case2 cs ih =>
    obtain - | - | position := position
    · rfl
    · rfl
    · have hrest := ih (row + 1) (Nat.lt_of_add_lt_add_right h)
      have hcount : Text.lineFeeds ('\r' :: '\n' :: cs.take position) =
          Text.lineFeeds (cs.take position) + 1 := by simp [Text.lineFeeds]
      have hreturn : isOtherBreak ('\r' :: '\n' :: cs) 0 = false := rfl
      have hfeed : isOtherBreak ('\n' :: cs) 0 = false := rfl
      rw [placeFrom_of_le row _ (show 2 ≤ position + 2 by omega), List.take_succ_cons,
        List.take_succ_cons, hcount, otherBreaks_cons, otherBreaks_cons, hreturn, hfeed]
      refine hrest.trans ?_
      simp only [Bool.toNat_false]
      omega
  | case3 c cs halone hbreak ih =>
    cases position with
    | zero => rfl
    | succ position =>
      have hrest := ih (row + 1) (Nat.lt_of_succ_lt_succ h)
      have hcount : Text.lineFeeds (c :: cs.take position) =
          Text.lineFeeds [c] + Text.lineFeeds (cs.take position) := Text.lineFeeds_append [c] _
      have hone := lineFeeds_add_isOtherBreak hbreak fun rest hc hcs => halone rest hc hcs
      rw [placeFrom_of_le row _ (show 1 ≤ position + 1 by omega), List.take_succ_cons, hcount,
        otherBreaks_cons]
      refine hrest.trans ?_
      omega
  | case4 c cs halone hbreak ih =>
    cases position with
    | zero => cases breakLines cs <;> rfl
    | succ position =>
      have hlt := Nat.lt_of_succ_lt_succ h
      have hrest := ih row hlt
      have hcount : Text.lineFeeds (c :: cs.take position) = Text.lineFeeds (cs.take position) :=
        List.count_cons_of_ne (by rintro rfl; exact hbreak rfl)
      have hother : isOtherBreak (c :: cs) 0 = false := by simp [isOtherBreak, hbreak]
      obtain ⟨line, lines, hlines, -⟩ := exists_breakLines_eq_cons
        (List.ne_nil_of_length_pos (Nat.zero_lt_of_lt hlt))
      rw [hlines] at hrest ⊢
      rw [row_placeFrom_extend, hrest, List.take_succ_cons, hcount, otherBreaks_cons, hother,
        Bool.toNat_false, Nat.zero_add]

theorem rtakeWhile_cons_of_neg {p : Char → Bool} {c : Char} (h : p c = false) (t : Text) :
    (c :: t).rtakeWhile p = t.rtakeWhile p := by
  unfold List.rtakeWhile
  rw [List.reverse_cons, List.takeWhile_append]
  split_ifs with hall
  · have hwhole := (List.takeWhile_prefix p).eq_of_length hall
    simp [hwhole, h]
  · rfl

theorem length_rtakeWhile_cons {p : Char → Bool} {c : Char} (h : p c) (t : Text) :
    ((c :: t).rtakeWhile p).length =
      if (t.rtakeWhile p).length = t.length then t.length + 1 else (t.rtakeWhile p).length := by
  unfold List.rtakeWhile
  rw [List.reverse_cons, List.takeWhile_append, List.length_reverse, List.length_reverse,
    List.length_reverse]
  split_ifs <;> simp [h]

/-- A position that is not inside of a pair has in its column what is behind the last line break. -/
theorem column_placeFrom (row : Nat) {source : Text} {position : Nat}
    (h : position < source.length) (hfeed : source[position]? ≠ some '\n') :
    (placeFrom row (breakLines source) position).column =
      ((source.take position).rtakeWhile (!isLineBreak ·)).length := by
  fun_induction breakLines source generalizing row position with
  | case1 => cases h
  | case2 cs ih =>
    obtain - | - | position := position
    · rfl
    · exact absurd rfl hfeed
    · have hrest := ih (row + 1) (Nat.lt_of_add_lt_add_right h) hfeed
      rw [placeFrom_of_le row _ (show 2 ≤ position + 2 by omega), List.take_succ_cons,
        List.take_succ_cons, rtakeWhile_cons_of_neg rfl, rtakeWhile_cons_of_neg rfl]
      exact hrest
  | case3 c cs halone hbreak ih =>
    cases position with
    | zero => rfl
    | succ position =>
      have hrest := ih (row + 1) (Nat.lt_of_succ_lt_succ h) hfeed
      rw [placeFrom_of_le row _ (show 1 ≤ position + 1 by omega), List.take_succ_cons,
        rtakeWhile_cons_of_neg (by simp [hbreak])]
      exact hrest
  | case4 c cs halone hbreak ih =>
    cases position with
    | zero => cases breakLines cs <;> rfl
    | succ position =>
      have hlt := Nat.lt_of_succ_lt_succ h
      have hrest := ih row hlt hfeed
      obtain ⟨line, lines, hlines, hline⟩ := exists_breakLines_eq_cons
        (List.ne_nil_of_length_pos (Nat.zero_lt_of_lt hlt))
      rw [hlines] at hrest ⊢
      -- On both sides the character counts if nothing behind it is a break.
      have hlength : (cs.take position).length = position := List.length_take_of_le hlt.le
      rw [column_placeFrom_extend row position c lines hline, hrest, List.take_succ_cons,
        length_rtakeWhile_cons (by simp [hbreak]), hlength]

/-- The place of what stands behind a text, if that does not begin with a line feed. -/
theorem place_length_append (before : Text) {rest : Text} (hne : rest ≠ [])
    (hhead : rest.head? ≠ some '\n') :
    let found := place (breakLines (before ++ rest)) before.length
    found.row = before.lineFeeds + otherBreaks (before ++ rest) before.length ∧
      found.column = (before.rtakeWhile (!isLineBreak ·)).length := by
  have hin : before.length < (before ++ rest).length := by
    rw [List.length_append]
    exact Nat.lt_add_of_pos_right (List.length_pos_iff.mpr hne)
  have hfeed : (before ++ rest)[before.length]? ≠ some '\n' := by
    rwa [List.getElem?_append_right (Nat.le_refl _), Nat.sub_self, ← List.head?_eq_getElem?]
  have hrow := row_placeFrom 0 hin
  have hcolumn := column_placeFrom 0 hin hfeed
  rw [List.take_left] at hrow hcolumn
  rw [Nat.zero_add] at hrow
  exact ⟨hrow, hcolumn⟩

end LoxFrontEnd.Snippet
