import LoxFrontEnd.Proofs.ConsoleText

/-!
# The last line

The driver begins what it says with the name of the program. What a console reports about a source
never ends with such a line (`endsOtherwise_report`), whatever the source and its origin hold: the
last line of a diagnostic is its plain form or the foot of its snippet. So the last line tells
whether the driver has stopped.
-/
namespace LoxFrontEnd

namespace Text

/-- A text without an unfinished line. -/
def IsLines (t : Text) : Prop := t = [] ∨ t.getLast? = some '\n'

/-- The last line of a text that has one, and does not go on after it. -/
structure LastLine (t line : Text) : Prop where
  lineFeed_not_mem : '\n' ∉ line
  exists_before : ∃ before : Text, before.IsLines ∧ t = before ++ line ++ ['\n']

/-- A line that begins as those of the driver do. -/
def IsDriverLine (line : Text) : Prop := "lox: ".toList <+: line

/-- A text that ends with a line of the driver. -/
def EndsWithDriverLine (t : Text) : Prop := ∃ line, LastLine t line ∧ line.IsDriverLine

/-- A text without an unfinished line that does not end with a line of the driver. -/
def EndsOtherwise (t : Text) : Prop := t = [] ∨ ∃ line, LastLine t line ∧ ¬line.IsDriverLine

theorem not_isDriverLine {line : Text} (h : line.head? ≠ some 'l') : ¬line.IsDriverLine := by
  rintro ⟨rest, rfl⟩
  exact h rfl

theorem IsLines.append {t u : Text} (ht : t.IsLines) (hu : u.IsLines) : (t ++ u).IsLines := by
  obtain rfl | hu := hu
  · rwa [List.append_nil]
  · exact .inr (by rw [List.getLast?_append, hu, Option.some_or])

theorem LastLine.isLines {t line : Text} (h : LastLine t line) : t.IsLines := by
  obtain ⟨before, -, rfl⟩ := h.exists_before
  exact .inr (List.getLast?_concat ..)

theorem LastLine.append_left {t u line : Text} (ht : t.IsLines) (h : LastLine u line) :
    LastLine (t ++ u) line := by
  obtain ⟨before, hbefore, rfl⟩ := h.exists_before
  exact ⟨h.lineFeed_not_mem, t ++ before, ht.append hbefore, by simp⟩

/-- Finished lines do not reach into a line. -/
theorem IsLines.eq_nil_of_append {t u : Text} (h : (t ++ u).IsLines) (hu : '\n' ∉ u) : u = [] := by
  obtain h | h := h
  · exact (List.append_eq_nil_iff.mp h).2
  · rw [List.getLast?_append] at h
    cases hlast : u.getLast? with
    | none => exact List.getLast?_eq_none_iff.mp hlast
    | some c =>
      rw [hlast, Option.some_or, Option.some_inj] at h
      exact absurd (h ▸ List.mem_of_getLast? hlast) hu

theorem LastLine.unique {t line line' : Text} (h : LastLine t line) (h' : LastLine t line') :
    line = line' := by
  obtain ⟨before, hbefore, rfl⟩ := h.exists_before
  obtain ⟨before', hbefore', heq⟩ := h'.exists_before
  obtain ⟨gap, rfl, rfl⟩ | ⟨gap, rfl, rfl⟩ :=
    List.append_eq_append_iff.mp (List.append_cancel_right heq)
  · have hgap : '\n' ∉ gap := fun hmem => h.lineFeed_not_mem (List.mem_append_left _ hmem)
    rw [hbefore'.eq_nil_of_append hgap, List.nil_append]
  · have hgap : '\n' ∉ gap := fun hmem => h'.lineFeed_not_mem (List.mem_append_left _ hmem)
    rw [hbefore.eq_nil_of_append hgap, List.nil_append]

theorem LastLine.endsOtherwise {t line : Text} (h : LastLine t line)
    (hhead : line.head? ≠ some 'l') : t.EndsOtherwise :=
  .inr ⟨line, h, not_isDriverLine hhead⟩

theorem EndsOtherwise.isLines {t : Text} (h : t.EndsOtherwise) : t.IsLines := by
  obtain rfl | ⟨line, hline, -⟩ := h
  · exact .inl rfl
  · exact hline.isLines

theorem EndsOtherwise.not_endsWithDriverLine {t : Text} (h : t.EndsOtherwise) :
    ¬t.EndsWithDriverLine := by
  rintro ⟨line, hline, hdriver⟩
  obtain rfl | ⟨line', hline', hother⟩ := h
  · obtain ⟨before, -, hnil⟩ := hline.exists_before
    simp at hnil
  · exact hother (hline'.unique hline ▸ hdriver)

theorem EndsOtherwise.append {t u : Text} (ht : t.EndsOtherwise) (hu : u.EndsOtherwise) :
    (t ++ u).EndsOtherwise := by
  obtain rfl | ⟨line, hline, hother⟩ := hu
  · rwa [List.append_nil]
  · exact .inr ⟨line, hline.append_left ht.isLines, hother⟩

theorem EndsOtherwise.flatMap {α : Type} {f : α → Text} {as : List α}
    (h : ∀ a ∈ as, (f a).EndsOtherwise) : EndsOtherwise (as.flatMap f) := by
  induction as with
  | nil => exact .inl rfl
  | cons a as ih =>
    rw [List.flatMap_cons]
    exact (h a List.mem_cons_self).append (ih fun a' ha' => h a' (List.mem_cons_of_mem a ha'))

theorem not_mem_ofNat {c : Char} (hc : c.isDigit = false) (n : Nat) : c ∉ ofNat n := by
  intro h
  rw [Nat.isDigit_of_mem_toDigits (by decide) (by decide) h] at hc
  cases hc

end Text

namespace Snippet

theorem isLines_writeRows (color : Bool) (rows : List Row) : (writeRows color rows).IsLines := by
  induction rows with
  | nil => exact .inl rfl
  | cons row rows ih =>
    have hrow : (writeRow color row).IsLines := .inr (List.getLast?_concat ..)
    rw [writeRows, List.flatMap_cons]
    exact hrow.append ih

/-- The foot of the margin. -/
def Content.foot (x : Content) : Cell :=
  painted .margin (List.replicate (x.marginWidth + 2) '─' ++ ['╯'])

theorem Content.getLast?_rows (x : Content) : x.rows.getLast? = some [x.foot] := by
  unfold rows
  rw [List.getLast?_append]
  rfl

theorem Content.endsOtherwise_writeRows (color : Bool) (x : Content) :
    (writeRows color x.rows).EndsOtherwise := by
  obtain ⟨rows, hrows⟩ := List.getLast?_eq_some_iff.mp x.getLast?_rows
  have hparameter : '\n' ∉ Paint.margin.parameter := by decide
  have hfoot : '\n' ∉ x.foot.written color := by
    cases color <;> simp [foot, painted, Cell.written, Text.styled, Text.escape, hparameter]
  have hhead : (x.foot.written color).head? ≠ some 'l' := by
    cases color <;>
      simp [foot, painted, Cell.written, Text.styled, Text.escape, List.replicate_succ]
  have hwritten : writeRows color x.rows =
      writeRows color rows ++ x.foot.written color ++ ['\n'] := by
    simp [hrows, writeRows, writeRow]
  have hline : Text.LastLine (writeRows color x.rows) (x.foot.written color) :=
    ⟨hfoot, _, isLines_writeRows color rows, hwritten⟩
  exact hline.endsOtherwise hhead

end Snippet

theorem Fault.lineFeed_not_mem_message (f : Fault) : '\n' ∉ f.message := by
  cases f <;> decide

namespace Diagnostic

/-- Control characters in the plain form of a diagnostic are brought along by the diagnostic. -/
theorem not_mem_text {d : Diagnostic} {c : Char} (hc : c.toNat < 0x20) (hcontext : c ∉ d.context)
    (hmessage : c ∉ d.message) : c ∉ d.text := by
  have hfixed {t : Text} (ht : t.all (0x20 ≤ ·.toNat) = true) : c ∉ t := by
    intro hmem
    have hle := List.all_eq_true.mp ht c hmem
    rw [decide_eq_true_eq] at hle
    omega
  have hdigit : c.isDigit = false := by
    simp only [Char.isDigit, Bool.and_eq_false_iff, decide_eq_false_iff_not, ge_iff_le,
      UInt32.le_iff_toNat_le]
    exact .inl (Nat.not_le.mpr (Nat.lt_of_lt_of_le hc (by decide)))
  unfold text
  simp only [List.mem_append, not_or]
  have hnumber := Text.not_mem_ofNat hdigit d.line
  exact ⟨⟨⟨⟨⟨hfixed (by decide), hnumber⟩, hfixed (by decide)⟩, hcontext⟩, hfixed (by decide)⟩,
    hmessage⟩

/-- The plain form of a diagnostic is a line, unless the diagnostic brings line feeds along. -/
theorem endsOtherwise_text {d : Diagnostic} (hcontext : '\n' ∉ d.context)
    (hmessage : '\n' ∉ d.message) : (d.text ++ ['\n']).EndsOtherwise := by
  have hline : '\n' ∉ d.text := not_mem_text (by decide) hcontext hmessage
  have hhead : d.text.head? = some '[' := by
    unfold text
    simp only [List.append_assoc]
    rfl
  have hlast : Text.LastLine (d.text ++ ['\n']) d.text := ⟨hline, [], .inl rfl, rfl⟩
  exact hlast.endsOtherwise (by rw [hhead]; decide)

theorem lineFeed_not_mem {source : Text} {d : Diagnostic} (h : d ∈ diagnostics source) :
    '\n' ∉ d.context ∧ '\n' ∉ d.message := by
  obtain ⟨e, -, he⟩ := List.mem_filterMap.mp h
  unfold Element.diagnostic? at he
  split at he
  · rename_i fault _
    cases he
    exact ⟨List.not_mem_nil, fault.lineFeed_not_mem_message⟩
  · cases he

end Diagnostic

namespace Console

theorem endsOtherwise_present (style : Style) (origin : Text) {source : Text} {d : Diagnostic}
    (h : d ∈ diagnostics source) : (present style origin source d).EndsOtherwise := by
  obtain ⟨hcontext, hmessage⟩ := Diagnostic.lineFeed_not_mem h
  have hplain := Diagnostic.endsOtherwise_text hcontext hmessage
  cases style with
  | plain => exact hplain
  | pretty color =>
    unfold present Diagnostic.render
    dsimp only
    split
    · exact Snippet.Content.endsOtherwise_writeRows color _
    · exact hplain

theorem endsOtherwise_report (style : Style) (origin source : Text) :
    (report style origin source).EndsOtherwise :=
  .flatMap fun _ => endsOtherwise_present style origin

end Console

end LoxFrontEnd
