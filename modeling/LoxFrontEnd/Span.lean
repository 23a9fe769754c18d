import LoxFrontEnd.Text.Basic

/-!
# Spans

Ranges of positions in a source text, and the ranges taken by its lines. A line ends at a line
feed or at the end of the source, and its span leaves the line feed out.
-/
namespace LoxFrontEnd

/-- The positions from `start` up to but not including `stop`. -/
structure Span where
  start : Nat
  stop : Nat
  deriving DecidableEq, Repr

namespace Span

/-- The spans of the lines of a text that begins at position `position`, if the first line has
begun at `start`. -/
def linesFrom (start position : Nat) : Text → List Span
  | [] => [⟨start, position⟩]
  | c :: cs =>
    if c = '\n' then ⟨start, position⟩ :: linesFrom (position + 1) (position + 1) cs
    else linesFrom start (position + 1) cs

/-- The spans of all lines of a source. -/
def lines (source : Text) : List Span := linesFrom 0 0 source

/-- The span of a line, the first being line 1. -/
def ofLine? (source : Text) (line : Nat) : Option Span :=
  if line = 0 then none else (lines source)[line - 1]?

/-- Cuts a span to a source of `length` characters so that it holds at least one of them: a span
without characters takes the one at its start. There is none to take at or after the end. -/
def fit? (span : Span) (length : Nat) : Option Span :=
  if span.start < length then some ⟨span.start, max (min span.stop length) (span.start + 1)⟩
  else none

theorem length_linesFrom (start position : Nat) (t : Text) :
    (linesFrom start position t).length = t.lineFeeds + 1 := by
  induction t generalizing start position with
  | nil => rfl
  | cons c cs ih =>
    simp only [linesFrom]
    split
    · rename_i h
      simp [ih, h, Text.lineFeeds]
    · rename_i h
      simp [ih, Text.lineFeeds, h]

/-- A source has one line more than it has line feeds. -/
theorem length_lines (source : Text) : (lines source).length = source.lineFeeds + 1 :=
  length_linesFrom 0 0 source

/-- What fits is a span of one character or more within the source, and starts where it did. -/
theorem fit?_eq_some {span fitted : Span} {length : Nat} (h : span.fit? length = some fitted) :
    fitted.start = span.start ∧ fitted.start < fitted.stop ∧ fitted.stop ≤ length := by
  unfold fit? at h
  split at h
  · cases h
    dsimp only
    omega
  · cases h

/-- A span of one character or more that lies within the source is left as it is. -/
theorem fit?_of_lt {span : Span} {length : Nat} (h : span.start < span.stop)
    (hle : span.stop ≤ length) : span.fit? length = some span := by
  unfold fit?
  rw [if_pos (by omega), Nat.min_eq_left hle, Nat.max_eq_left h]

end Span

end LoxFrontEnd
