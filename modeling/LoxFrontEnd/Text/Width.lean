import LoxFrontEnd.Text.ZeroWidth
import LoxFrontEnd.Text.DoubleWidth

/-!
# Width on a terminal

How many columns a character takes when it is shown by itself.
-/
namespace LoxFrontEnd.Text

/-- Columns taken by one character. Control characters, all of them below U+00A0, are given one
column each, as something has to stand in their place. -/
def width (c : Char) : Nat :=
  if c.toNat < 0xA0 then 1
  else if c.toNat == 0x17D8 then 3
  else if c.toNat == 0x17A4 then 2
  else if zeroWidth.contains c then 0
  else if doubleWidth.contains c then 2
  else 1

end LoxFrontEnd.Text
