import LoxFrontEnd.Snippet.Lines
import LoxFrontEnd.Snippet.Paint
import LoxFrontEnd.Diagnostic
import LoxFrontEnd.Text.Width

/-!
# Layout of a snippet

A snippet shows the lines that a span touches, marks the characters of the span, and hangs the
message on the mark. A span within one line is underlined, with the message below its middle; a
span over several lines is bracketed on the left from its first line to its last, and the lines in
between are left out. Every row carries the same margin, as wide as the number of the last line.
-/
namespace LoxFrontEnd.Snippet

/-- Columns taken by a character that stands at position `column` of its line: a tab goes on to
the next multiple of four, other white space takes one column. -/
def columnsOf (column : Nat) (c : Char) : Nat :=
  if c = '\t' then 4 - column % 4 else if Text.isWhiteSpace c then 1 else Text.width c

/-- Columns taken at a position of a line that is shown as `shown`; one for each position after
its end. -/
def columnsAt (shown : Array Char) (column : Nat) : Nat :=
  match shown[column]? with
  | some c => columnsOf column c
  | none => 1

/-- What a snippet is made from: the text to show, the reported line, and the marked span, which
holds at least one character of the source. -/
structure Content where
  filename : Text
  title : Text
  message : Text
  line : Nat
  source : List Text
  span : Span

namespace Content

/-- Where the span begins. -/
def first (x : Content) : Place := place x.source x.span.start

/-- Where the last character of the span is. -/
def last (x : Content) : Place := place x.source (x.span.stop - 1)

/-- Digits of the largest line number shown. -/
def marginWidth (x : Content) : Nat := (Text.ofNat (x.last.row + 1)).length

/-- The margin with the number of a line. -/
def numbered (x : Content) (row : Nat) : Row :=
  [bare [' '],
    painted .margin (Text.padStart x.marginWidth (Text.ofNat (row + 1)) ++ " │".toList),
    bare [' ']]

/-- The margin of a row without a number. -/
def unnumbered (x : Content) (bar : Char) : Row :=
  [bare [' '], painted .skipped (spaces (x.marginWidth + 1) ++ [bar]), bare [' ']]

/-- The characters of a line, from position `offset` of the source on, without the white space at
its end. White space is shown as spaces, and the span stands out. -/
def sourceCells (x : Content) (offset : Nat) (line : Text) : Row :=
  (Text.trimEnd line).zipIdx.flatMap fun (c, column) =>
    let position := offset + column
    let paint := if x.span.start ≤ position ∧ position < x.span.stop then Paint.fault else .source
    if Text.isWhiteSpace c then List.replicate (columnsOf column c) (painted paint [' '])
    else [painted paint [c]]

/-- One character of a mark, repeated. -/
def marks (count : Nat) (c : Char) : Row := List.replicate count (painted .fault [c])

/-- A corner that goes on as a line over the columns of one position. -/
def corner (columns : Nat) (c : Char) : Row := (marks columns '─').set 0 (painted .fault [c])

/-- A span within one line: the line, its underline, and the message below. -/
def underlined (x : Content) : List Row :=
  let offset := x.span.start - x.first.column
  let stop := x.span.stop - offset
  let middle := (x.span.start + x.span.stop) / 2 - offset
  let shown := (Text.trimEnd x.first.line).toArray
  let across (cells : Nat → Nat → Row) : Row :=
    (List.range (stop + 2)).flatMap fun column => cells column (columnsAt shown column)
  let blank (columns : Nat) : Row := List.replicate columns (bare [' '])
  [x.numbered x.first.row ++ x.sourceCells offset x.first.line,
    x.unnumbered '│' ++ across fun column columns =>
      if column = middle then corner columns '┬'
      else if x.first.column ≤ column ∧ column < stop then marks columns '─'
      else blank columns,
    x.unnumbered '│' ++ (across fun column columns =>
      if column = middle then corner columns '╰'
      else if middle < column then marks columns '─'
      else blank columns) ++ [bare (' ' :: x.message)]]

/-- A span over several lines: its first line, a gap, its last line, and the message. -/
def bracketed (x : Content) : List Row :=
  let arrow (c : Char) : Row := marks 1 c ++ marks 1 '─' ++ marks 1 '▶' ++ marks 1 ' '
  let lineRow (place : Place) (position : Nat) (c : Char) : Row :=
    x.numbered place.row ++ arrow c ++ x.sourceCells (position - place.column) place.line
  let shown := (Text.trimEnd x.last.line).toArray
  let reach := (List.range (x.last.line.length + 2)).foldl (· + columnsAt shown ·) 0
  let gap : List Row :=
    if x.first.row + 1 < x.last.row then [x.unnumbered '┆' ++ marks 1 '┆' ++ [bare (spaces 3)]]
    else []
  lineRow x.first x.span.start '╭' :: gap ++
    [lineRow x.last (x.span.stop - 1) '├',
      x.unnumbered '│' ++ marks 1 '│' ++ [bare (spaces (3 + reach))],
      x.unnumbered '│' ++ marks 1 '╰' ++ marks (3 + reach) '─' ++ [bare (' ' :: x.message)]]

/-- What stands left of the note. Below a bracket it is as wide as the bracket; if the span begins
with the second line of the source, the bracket's bar is drawn on. -/
def notePadding (x : Content) : Row :=
  if x.first.row = x.last.row then []
  else if some x.span.start = x.source.head?.map List.length then
    marks 1 '│' ++ [bare (spaces 3)]
  else [bare (spaces 4)]

/-- All rows, from the title to the foot of the margin. -/
def rows (x : Content) : List Row :=
  let indent := bare (spaces (x.marginWidth + 2))
  let location := x.filename ++ ':' :: Text.ofNat (x.first.row + 1) ++
    ':' :: Text.ofNat (x.first.column + 1)
  [[painted .fault "Error:".toList, bare (' ' :: x.title)],
    [indent, painted .margin ['╭'], painted .margin ['─'], painted .margin ['['], bare location,
      painted .margin [']']],
    [indent, painted .margin ['│']]] ++
  (if x.first.row = x.last.row then x.underlined else x.bracketed) ++
  [x.unnumbered '│' ++ x.notePadding,
    x.unnumbered '│' ++ x.notePadding ++
      [painted .note "Note".toList,
        bare (": reported on line ".toList ++ Text.ofNat x.line)],
    [painted .margin (List.replicate (x.marginWidth + 2) '─' ++ ['╯'])]]

end Content

end LoxFrontEnd.Snippet

namespace LoxFrontEnd.Diagnostic

/-- What the snippet for a diagnostic shows, if the diagnostic can be located in the source. -/
def snippet? (d : Diagnostic) (source filename : Text) : Option Snippet.Content :=
  (d.located? source).map fun span =>
    ⟨filename, d.title, d.message, d.line, Snippet.breakLines source, span⟩

/-- A diagnostic as a snippet of the source, or in its plain form where the source has nothing to
point at. -/
def render (d : Diagnostic) (source filename : Text) (color : Bool) : Text :=
  match d.snippet? source filename with
  | some content => Snippet.writeRows color content.rows
  | none => d.text ++ ['\n']

end LoxFrontEnd.Diagnostic
