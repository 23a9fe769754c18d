/-!
# Text

Source code, messages and printed output are sequences of Unicode scalar values. Offsets, lengths
and columns count these values, never bytes.
-/
namespace LoxFrontEnd

/-- A sequence of Unicode scalar values. -/
abbrev Text := List Char

namespace Text

/-- A number in decimal digits, without leading zeros. -/
def ofNat (n : Nat) : Text := Nat.toDigits 10 n

/-- A line number counts line feeds only, so this is how far a text moves it. -/
def lineFeeds (t : Text) : Nat := t.count '\n'

/-- The characters of the Unicode property White_Space. -/
def isWhiteSpace (c : Char) : Bool :=
  let n := c.toNat
  (0x09 ≤ n && n ≤ 0x0D) || n == 0x20 || n == 0x85 || n == 0xA0 || n == 0x1680 ||
    (0x2000 ≤ n && n ≤ 0x200A) || n == 0x2028 || n == 0x2029 || n == 0x202F || n == 0x205F ||
    n == 0x3000

def trimStart (t : Text) : Text := t.dropWhile isWhiteSpace

def trimEnd (t : Text) : Text := (t.reverse.dropWhile isWhiteSpace).reverse

def trim (t : Text) : Text := trimEnd (trimStart t)

/-- Whether `s` comes before `t` in the order of the values of their characters. -/
def before (s t : Text) : Bool := s.lex t fun c d => c.toNat < d.toNat

/-- Spaces in front of `t` until it is `width` characters long. -/
def padStart (width : Nat) (t : Text) : Text := List.replicate (width - t.length) ' ' ++ t

/-- The pieces of `t` between the characters `mark`; there is always one more than marks. -/
def cutAt (mark : Char) : Text → List Text
  | [] => [[]]
  | c :: cs =>
    if c = mark then [] :: cutAt mark cs
    else match cutAt mark cs with
      | [] => [[c]]
      | piece :: pieces => (c :: piece) :: pieces

@[simp] theorem lineFeeds_nil : lineFeeds [] = 0 := rfl

@[simp] theorem lineFeeds_append (s t : Text) :
    lineFeeds (s ++ t) = lineFeeds s + lineFeeds t := by
  simp [lineFeeds]

end Text

end LoxFrontEnd
