import LoxFrontEnd.Text.Basic

/-!
# Lines of a snippet

A snippet shows a source line by line, and knows more line ends than the line feed that a program
counts: a line goes on to and includes the next line break of any kind, where a carriage return
and the line feed after it are one break. The lines are cut so that nothing is lost
(`join_breakLines`).
-/
namespace LoxFrontEnd.Snippet

/-- Carriage return, line feed, vertical tab, form feed, next line, line and paragraph
separator. -/
def isLineBreak (c : Char) : Bool :=
  let n := c.toNat
  (0x0A ≤ n && n ≤ 0x0D) || n == 0x85 || n == 0x2028 || n == 0x2029

/-- Puts a character in front of the first line. -/
def extend (c : Char) : List Text → List Text
  | [] => [[c]]
  | line :: lines => (c :: line) :: lines

/-- The lines of a source, each with the break that ends it. -/
def breakLines : Text → List Text
  | [] => []
  | '\r' :: '\n' :: cs => ['\r', '\n'] :: breakLines cs
  | c :: cs => if isLineBreak c then [c] :: breakLines cs else extend c (breakLines cs)

theorem flatten_extend (c : Char) (lines : List Text) :
    (extend c lines).flatten = c :: lines.flatten := by
  cases lines <;> simp [extend]

/-- The lines make up the source again. -/
theorem join_breakLines (source : Text) : (breakLines source).flatten = source := by
  fun_induction breakLines source with
  | case1 => rfl
  | case2 cs ih => simp [ih]
  | case3 c cs _ _ ih => simp [ih]
  | case4 c cs _ _ ih => rw [flatten_extend, ih]

/-- A position in a source as a line and a position in that line, both counted from 0. -/
structure Place where
  row : Nat
  column : Nat
  line : Text
  deriving Repr

/-- Finds a position in lines of which the first has the number `row`. -/
def placeFrom (row : Nat) : List Text → Nat → Place
  | [], position => ⟨row, position, []⟩
  | line :: lines, position =>
    if position < line.length then ⟨row, position, line⟩
    else placeFrom (row + 1) lines (position - line.length)

def place (lines : List Text) (position : Nat) : Place := placeFrom 0 lines position

end LoxFrontEnd.Snippet
