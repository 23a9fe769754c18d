import LoxFrontEnd.Text.Escapes

/-!
# Painted text

A row of a snippet is a list of cells, each with the paint it is given. Rows do not know whether
colours will be shown: that is decided when they are written, and changes nothing but the escape
sequences around painted cells.
-/
namespace LoxFrontEnd.Snippet

/-- The paints of a snippet, by what they are used for. -/
inductive Paint
  | fault
  | margin
  | skipped
  | source
  | note
  deriving DecidableEq, Repr

/-- The colour of a paint as a parameter of the escape sequence. -/
def Paint.parameter : Paint → Text
  | fault => "31".toList
  | margin => "38;5;246".toList
  | skipped => "38;5;240".toList
  | source => "38;5;249".toList
  | note => "38;5;115".toList

/-- A text that is painted as one piece, or not at all. -/
structure Cell where
  paint : Option Paint
  text : Text
  deriving DecidableEq, Repr

abbrev Row := List Cell

def bare (t : Text) : Cell := ⟨none, t⟩

def painted (p : Paint) (t : Text) : Cell := ⟨some p, t⟩

def spaces (n : Nat) : Text := List.replicate n ' '

/-- A cell as it is written. -/
def Cell.written (color : Bool) (cell : Cell) : Text :=
  match cell.paint with
  | none => cell.text
  | some p => if color then Text.styled [p.parameter] cell.text else cell.text

/-- A row as it is written, with the end of its line. -/
def writeRow (color : Bool) (row : Row) : Text := row.flatMap (·.written color) ++ ['\n']

def writeRows (color : Bool) (rows : List Row) : Text := rows.flatMap (writeRow color)

end LoxFrontEnd.Snippet
