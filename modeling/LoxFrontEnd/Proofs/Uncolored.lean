import LoxFrontEnd.Proofs.Delimited
import LoxFrontEnd.Proofs.LastLine
import LoxFrontEnd.Proofs.Location

/-!
# Snippets without colours

Colours only add escape sequences. If no text that goes into a diagnostic holds an escape character,
the diagnostic in colours is, with its sequences taken out, the diagnostic without colours
(`render_uncolored`). All cells of a snippet are then clear of escape characters (`IsClear.rows`),
so the sequences are those that a cell is painted with, and each of them ends at its first `m`.
-/
namespace LoxFrontEnd

namespace Text

/-- A text without its sequences `ESC [ … m`, each of which ends with the first `m`. What never ends
is no sequence. -/
def uncolored : Text → Text
  | [] => []
  | c :: cs =>
    if c = '\x1b' ∧ cs.head? = some '[' ∧ 'm' ∈ cs then
      uncolored ((cs.dropWhile (· != 'm')).drop 1)
    else c :: uncolored cs
termination_by t => t.length
decreasing_by
  · have hrest := (List.drop_sublist 1 _).trans (List.dropWhile_sublist (· != 'm') (l := cs))
    exact Nat.lt_succ_of_le hrest.length_le
  · exact Nat.lt_succ_self _

@[simp] theorem uncolored_nil : uncolored [] = [] := by rw [uncolored]

theorem uncolored_append {t : Text} (h : '\x1b' ∉ t) (u : Text) :
    uncolored (t ++ u) = t ++ uncolored u := by
  induction t with
  | nil => rfl
  | cons c cs ih =>
    obtain ⟨hc, hcs⟩ := not_or.mp (mt List.mem_cons.mpr h)
    rw [List.cons_append, uncolored, if_neg (fun hsequence => hc hsequence.1.symm), ih hcs,
      List.cons_append]

theorem uncolored_escape {parameter : Text} (h : 'm' ∉ parameter) (u : Text) :
    uncolored (escape parameter ++ u) = uncolored u := by
  have hdrop : ('[' :: (parameter ++ 'm' :: u)).dropWhile (· != 'm') = 'm' :: u := by
    rw [← List.cons_append, dropWhile_run (bne_of_not_mem (by simpa using h)) (by simp)]
  have hsequence : escape parameter ++ u = '\x1b' :: '[' :: (parameter ++ 'm' :: u) := by
    simp [escape]
  rw [hsequence, uncolored, if_pos ⟨rfl, rfl, by simp⟩, hdrop, List.drop_one, List.tail_cons]

end Text

namespace Snippet

theorem Paint.end_not_mem_parameter (p : Paint) : 'm' ∉ p.parameter := by cases p <;> decide

/-- A cell in colours shows what it shows without them. -/
theorem Cell.uncolored_written {cell : Cell} (h : '\x1b' ∉ cell.text) (u : Text) :
    Text.uncolored (cell.written true ++ u) = cell.written false ++ Text.uncolored u := by
  cases hpaint : cell.paint with
  | none => simp only [written, hpaint, Text.uncolored_append h]
  | some p =>
    have hreset : 'm' ∉ ['0'] := by decide
    simp only [written, hpaint, Text.styled, List.flatMap_cons, List.flatMap_nil, List.append_nil,
      List.append_assoc, if_true, Bool.false_eq_true, if_false,
      Text.uncolored_escape p.end_not_mem_parameter, Text.uncolored_append h,
      Text.uncolored_escape hreset]

/-- No cell of a row holds an escape character. -/
def Row.IsClear (row : Row) : Prop := ∀ cell ∈ row, '\x1b' ∉ cell.text

theorem uncolored_writeRow {row : Row} (h : Row.IsClear row) (u : Text) :
    Text.uncolored (writeRow true row ++ u) = writeRow false row ++ Text.uncolored u := by
  have hend : '\x1b' ∉ ['\n'] := by decide
  unfold writeRow
  rw [List.append_assoc, List.append_assoc, ← Text.uncolored_append hend]
  generalize ['\n'] ++ u = rest
  induction row with
  | nil => rfl
  | cons cell row ih =>
    obtain ⟨hcell, hrow⟩ := List.forall_mem_cons.mp h
    rw [List.flatMap_cons, List.append_assoc, Cell.uncolored_written hcell, ih hrow,
      List.flatMap_cons, List.append_assoc]

theorem uncolored_writeRows {rows : List Row} (h : ∀ row ∈ rows, Row.IsClear row) :
    Text.uncolored (writeRows true rows) = writeRows false rows := by
  unfold writeRows
  induction rows with
  | nil => simp
  | cons row rows ih =>
    obtain ⟨hrow, hrows⟩ := List.forall_mem_cons.mp h
    rw [List.flatMap_cons, uncolored_writeRow hrow, ih hrows, List.flatMap_cons]

theorem escape_not_mem_writeRows {rows : List Row} (h : ∀ row ∈ rows, Row.IsClear row) :
    '\x1b' ∉ writeRows false rows := by
  intro hmem
  obtain ⟨row, hrow, hmem⟩ := List.mem_flatMap.mp hmem
  obtain hmem | hmem := List.mem_append.mp hmem
  · obtain ⟨cell, hcell, hmem⟩ := List.mem_flatMap.mp hmem
    have htext : cell.written false = cell.text := by
      unfold Cell.written
      cases cell.paint <;> rfl
    exact h row hrow cell hcell (htext ▸ hmem)
  · simp at hmem

end Snippet

namespace Text

theorem mem_of_mem_trimEnd {t : Text} {c : Char} (h : c ∈ trimEnd t) : c ∈ t :=
  List.mem_reverse.mp ((List.dropWhile_sublist _).mem (List.mem_reverse.mp h))

end Text

namespace Snippet

theorem line_placeFrom (row : Nat) (lines : List Text) (position : Nat) :
    (placeFrom row lines position).line ∈ [] :: lines := by
  induction lines generalizing row position with
  | nil => simp [placeFrom]
  | cons line lines ih =>
    unfold placeFrom
    split
    · simp
    · exact List.cons_subset_cons [] (List.subset_cons_self line lines) (ih ..)

namespace Row.IsClear

theorem nil : Row.IsClear [] := by simp [Row.IsClear]

theorem append {row row' : Row} (h : Row.IsClear row) (h' : Row.IsClear row') :
    Row.IsClear (row ++ row') := List.forall_mem_append.mpr ⟨h, h'⟩

theorem cons {cell : Cell} {row : Row} (hcell : '\x1b' ∉ cell.text) (h : Row.IsClear row) :
    Row.IsClear (cell :: row) := List.forall_mem_cons.mpr ⟨hcell, h⟩

theorem flatMap {α : Type} {f : α → Row} {as : List α} (h : ∀ a ∈ as, Row.IsClear (f a)) :
    Row.IsClear (as.flatMap f) := by
  intro cell hcell
  obtain ⟨a, ha, hmem⟩ := List.mem_flatMap.mp hcell
  exact h a ha cell hmem

theorem replicate {cell : Cell} (hcell : '\x1b' ∉ cell.text) (n : Nat) :
    Row.IsClear (List.replicate n cell) := by
  intro cell' hmem
  rwa [List.eq_of_mem_replicate hmem]

end Row.IsClear

theorem escape_not_mem_spaces (n : Nat) : '\x1b' ∉ spaces n := by
  intro h
  exact absurd (List.eq_of_mem_replicate h) (by decide)

namespace Content

/-- No text that goes into a snippet holds an escape character. -/
structure IsClear (x : Content) : Prop where
  filename : '\x1b' ∉ x.filename
  title : '\x1b' ∉ x.title
  message : '\x1b' ∉ x.message
  source : ∀ line ∈ x.source, '\x1b' ∉ line

theorem isClear_numbered (x : Content) (row : Nat) : Row.IsClear (x.numbered row) := by
  have hnumber : '\x1b' ∉ Text.padStart x.marginWidth (Text.ofNat (row + 1)) ++ " │".toList := by
    unfold Text.padStart
    simp only [List.mem_append, not_or]
    exact ⟨⟨escape_not_mem_spaces _, Text.not_mem_ofNat (by decide) _⟩, by decide⟩
  exact .cons (by decide) (.cons hnumber (.cons (by decide) .nil))

theorem isClear_unnumbered (x : Content) {bar : Char} (hbar : bar ≠ '\x1b') :
    Row.IsClear (x.unnumbered bar) := by
  have hspaces : '\x1b' ∉ spaces (x.marginWidth + 1) ++ [bar] := by
    simpa [hbar.symm] using escape_not_mem_spaces _
  exact .cons (by decide) (.cons hspaces (.cons (by decide) .nil))

theorem isClear_sourceCells (x : Content) (offset : Nat) {line : Text} (hline : '\x1b' ∉ line) :
    Row.IsClear (x.sourceCells offset line) := by
  refine .flatMap ?_
  rintro ⟨c, column⟩ hc
  have hne : '\x1b' ≠ c := by
    rintro rfl
    exact hline (Text.mem_of_mem_trimEnd (List.fst_mem_of_mem_zipIdx hc))
  dsimp only
  split
  · exact .replicate (by simp [painted]) _
  · exact .cons (by simpa [painted] using hne) .nil

theorem isClear_marks (count : Nat) {c : Char} (hc : c ≠ '\x1b') :
    Row.IsClear (marks count c) := .replicate (by simpa [painted] using hc.symm) count

theorem isClear_corner (columns : Nat) {c : Char} (hc : c ≠ '\x1b') :
    Row.IsClear (corner columns c) := by
  intro cell hcell
  obtain hcell | rfl := List.mem_or_eq_of_mem_set hcell
  · exact isClear_marks columns (by decide) cell hcell
  · simpa [painted] using hc.symm

/-- The cells below a column of the source. -/
theorem isClear_below (columns : Nat) {p q : Prop} [Decidable p] [Decidable q] {c : Char}
    (hc : c ≠ '\x1b') :
    Row.IsClear (if p then corner columns c else if q then marks columns '─'
      else List.replicate columns (bare [' '])) := by
  split_ifs
  · exact isClear_corner columns hc
  · exact isClear_marks columns (by decide)
  · exact .replicate (by decide) columns

theorem isClear_spaces (count : Nat) : Row.IsClear [bare (spaces count)] :=
  .cons (escape_not_mem_spaces count) .nil

variable {x : Content}

theorem IsClear.messageCell (h : x.IsClear) : Row.IsClear [bare (' ' :: x.message)] :=
  .cons (by simpa [bare] using h.message) .nil

theorem IsClear.line (h : x.IsClear) (position : Nat) :
    '\x1b' ∉ (place x.source position).line := by
  have hlines : ∀ line ∈ [] :: x.source, '\x1b' ∉ line :=
    List.forall_mem_cons.mpr ⟨List.not_mem_nil, h.source⟩
  exact hlines _ (line_placeFrom 0 x.source position)

theorem IsClear.underlined (h : x.IsClear) : ∀ row ∈ x.underlined, Row.IsClear row := by
  have hbar := x.isClear_unnumbered (show '│' ≠ '\x1b' by decide)
  unfold Content.underlined
  simp only [List.forall_mem_cons, List.not_mem_nil, false_implies, implies_true, and_true]
  refine ⟨?_, ?_, ?_⟩
  · exact (x.isClear_numbered _).append (x.isClear_sourceCells _ (h.line _))
  · exact hbar.append (.flatMap fun _ _ => isClear_below _ (by decide))
  · exact (hbar.append (.flatMap fun _ _ => isClear_below _ (by decide))).append h.messageCell

theorem IsClear.bracketed (h : x.IsClear) : ∀ row ∈ x.bracketed, Row.IsClear row := by
  have hmark (n : Nat) {c : Char} (hc : c ≠ '\x1b') := isClear_marks n hc
  have hline (row position offset : Nat) {c : Char} (hc : c ≠ '\x1b') :
      Row.IsClear (x.numbered row ++ (marks 1 c ++ marks 1 '─' ++ marks 1 '▶' ++ marks 1 ' ') ++
        x.sourceCells offset (place x.source position).line) :=
    ((x.isClear_numbered row).append ((((hmark 1 hc).append (hmark 1 (by decide))).append
      (hmark 1 (by decide))).append (hmark 1 (by decide)))).append
      (x.isClear_sourceCells offset (h.line position))
  have hbar {bar : Char} (hbar : bar ≠ '\x1b') := x.isClear_unnumbered hbar
  unfold Content.bracketed
  simp only [List.forall_mem_append, List.forall_mem_cons, List.not_mem_nil, false_implies,
    implies_true, and_true]
  refine ⟨⟨hline _ _ _ (by decide), ?_⟩, hline _ _ _ (by decide), ?_, ?_⟩
  · split_ifs
    · exact List.forall_mem_singleton.mpr
        (((hbar (by decide)).append (hmark 1 (by decide))).append (isClear_spaces 3))
    · simp
  · exact ((hbar (by decide)).append (hmark 1 (by decide))).append (isClear_spaces _)
  · exact (((hbar (by decide)).append (hmark 1 (by decide))).append (hmark _ (by decide))).append
      h.messageCell

theorem isClear_notePadding (x : Content) : Row.IsClear x.notePadding := by
  unfold notePadding
  split_ifs
  · exact .nil
  · exact (isClear_marks 1 (by decide)).append (isClear_spaces 3)
  · exact isClear_spaces 4

theorem IsClear.rows (h : x.IsClear) : ∀ row ∈ x.rows, Row.IsClear row := by
  have hnumber (n : Nat) : '\x1b' ∉ Text.ofNat n := Text.not_mem_ofNat (by decide) n
  have hindent := escape_not_mem_spaces (x.marginWidth + 2)
  have htitle : '\x1b' ∉ ' ' :: x.title := by simpa using h.title
  have hlocation : '\x1b' ∉ x.filename ++ ':' :: Text.ofNat (x.first.row + 1) ++
      ':' :: Text.ofNat (x.first.column + 1) := by
    simp [h.filename, hnumber]
  have hnote : '\x1b' ∉ ": reported on line ".toList ++ Text.ofNat x.line := by
    rw [List.mem_append, not_or]
    exact ⟨by decide, hnumber x.line⟩
  have hfoot : '\x1b' ∉ List.replicate (x.marginWidth + 2) '─' ++ ['╯'] := by simp
  have hmargin : Row.IsClear (x.unnumbered '│' ++ x.notePadding) :=
    (x.isClear_unnumbered (by decide)).append x.isClear_notePadding
  unfold Content.rows
  simp only [List.forall_mem_append, List.forall_mem_cons, List.not_mem_nil, false_implies,
    implies_true, and_true]
  refine ⟨⟨⟨?_, ?_, ?_⟩, ?_⟩, hmargin, hmargin.append ?_, ?_⟩
  · exact .cons (by decide) (.cons htitle .nil)
  · exact .cons hindent (.cons (by decide) (.cons (by decide) (.cons (by decide)
      (.cons hlocation (.cons (by decide) .nil)))))
  · exact .cons hindent (.cons (by decide) .nil)
  · split_ifs
    · exact h.underlined
    · exact h.bracketed
  · exact .cons (by decide) (.cons hnote .nil)
  · exact .cons hfoot .nil

end Content

end Snippet

namespace Diagnostic

theorem escape_not_mem_title {d : Diagnostic} (hcontext : '\x1b' ∉ d.context)
    (hmessage : '\x1b' ∉ d.message) : '\x1b' ∉ d.title := by
  have htrim : '\x1b' ∉ Text.trim d.context := fun h =>
    hcontext ((List.dropWhile_sublist _).mem (Text.mem_of_mem_trimEnd h))
  unfold title
  split
  · exact hmessage
  · simp only [List.mem_append, not_or]
    exact ⟨⟨htrim, by decide⟩, hmessage⟩

theorem isClear_of_snippet? {d : Diagnostic} {source filename : Text}
    (hcontext : '\x1b' ∉ d.context) (hmessage : '\x1b' ∉ d.message) (hsource : '\x1b' ∉ source)
    (hfilename : '\x1b' ∉ filename) {x : Snippet.Content}
    (h : d.snippet? source filename = some x) : x.IsClear := by
  obtain ⟨range, -, rfl⟩ := Option.map_eq_some_iff.mp h
  refine ⟨hfilename, escape_not_mem_title hcontext hmessage, hmessage, ?_⟩
  intro line hline hmem
  refine hsource ?_
  rw [← Snippet.join_breakLines source]
  exact List.mem_flatten.mpr ⟨line, hline, hmem⟩

/-- Colours only add escape sequences: taken out, they leave what is shown without colours, which
has no escape characters at all. A diagnostic is shown in colours wherever it is shown in its
source. -/
theorem render_uncolored (d : Diagnostic) (source filename : Text)
    (hcontext : '\x1b' ∉ d.context) (hmessage : '\x1b' ∉ d.message) (hsource : '\x1b' ∉ source)
    (hfilename : '\x1b' ∉ filename) :
    (d.render source filename true).uncolored = d.render source filename false ∧
    '\x1b' ∉ d.render source filename false ∧
    ('\x1b' ∈ d.render source filename true ↔ ¬d.IsNowhere source) := by
  rw [← located?_eq_none_iff]
  cases hlocated : d.located? source with
  | none =>
    have hplain (color : Bool) : d.render source filename color = d.text ++ ['\n'] := by
      simp [render, snippet?, hlocated]
    have hfree : '\x1b' ∉ d.text ++ ['\n'] := by
      simpa using not_mem_text (by decide) hcontext hmessage
    have huncolored := Text.uncolored_append hfree []
    rw [List.append_nil, Text.uncolored_nil, List.append_nil] at huncolored
    rw [hplain, hplain]
    exact ⟨huncolored, hfree, by simp [hfree]⟩
  | some range =>
    have hsnippet := d.snippet?_eq source filename hlocated
    have hrows := (isClear_of_snippet? hcontext hmessage hsource hfilename hsnippet).rows
    have hrender (color : Bool) := (render_of_snippet? hsnippet color).1
    rw [hrender, hrender]
    refine ⟨Snippet.uncolored_writeRows hrows, Snippet.escape_not_mem_writeRows hrows, ?_⟩
    exact iff_of_true (List.mem_of_mem_head? (Snippet.head?_writeRows true _)) (by simp)

/-- A span over several lines, with a tab and a character of two columns. -/
theorem render_uncolored_several_lines :
    let d : Diagnostic := ⟨2, " at end".toList, "Unterminated string.".toList, some ⟨1, 6⟩⟩
    let source : Text := ['\t', '"', '界', '\n', '\t', 'm']
    (d.render source ['a'] true).uncolored = d.render source ['a'] false ∧
    '\x1b' ∉ d.render source ['a'] false ∧ '\x1b' ∈ d.render source ['a'] true := by
  intro d source
  obtain ⟨huncolored, hfree, hcolored⟩ :=
    render_uncolored d source ['a'] (by decide) (by decide) (by decide) (by decide)
  exact ⟨huncolored, hfree, hcolored.mpr (by simp [IsNowhere, d, source])⟩

end Diagnostic

end LoxFrontEnd
