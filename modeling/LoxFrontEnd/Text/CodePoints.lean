/-!
# Sets of code points

A property of characters is written down as the increasing list of code points at which
membership changes, starting outside the set. A character is looked up by walking along the
changes up to the first one after it; at the end of the walk it is known whether the character is
inside.
-/
namespace LoxFrontEnd.Text

/-- A set of code points, given by the places where membership changes. -/
structure CodePoints where
  changes : List Nat

namespace CodePoints

/-- Walks along changes to a code point, with what holds before the first of them. -/
def walk (n : Nat) (inside : Bool) : List Nat → Bool
  | [] => inside
  | change :: changes => if n < change then inside else walk n (!inside) changes

def contains (set : CodePoints) (c : Char) : Bool := walk c.toNat false set.changes

end CodePoints

end LoxFrontEnd.Text
