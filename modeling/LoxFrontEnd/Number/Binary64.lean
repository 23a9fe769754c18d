/-!
# Binary64 numbers

A number is held as its 64 bits: a sign, eleven bits of exponent and 52 of fraction. Below the
sign the bits count up through the non-negative numbers in order of size, so they are used as a
code: 0 is zero, and `infinity` is the first code that stands for no finite number. Every finite
number is a whole multiple of the smallest positive one, 2⁻¹⁰⁷⁴, and `units` is that multiple;
rounding works on such multiples alone and never leaves the natural numbers. Powers are written
`Nat.pow`, which does not depend on the instances at hand.
-/
namespace LoxFrontEnd

structure Binary64 where
  bits : UInt64
  deriving DecidableEq, Repr

namespace Binary64

/-- The code of infinity: all bits of the exponent set, no fraction. -/
def infinity : Nat := 2047 * Nat.pow 2 52

/-- The bits below the sign. -/
def code (x : Binary64) : Nat := x.bits.toNat % Nat.pow 2 63

def isNegative (x : Binary64) : Bool := Nat.pow 2 63 ≤ x.bits.toNat

def isFinite (x : Binary64) : Bool := x.code < infinity

def isNaN (x : Binary64) : Bool := infinity < x.code

/-- The size of the number with a given code, as a multiple of 2⁻¹⁰⁷⁴. -/
def units (code : Nat) : Nat :=
  let implicit := Nat.pow 2 52
  if code < implicit then code
  else (implicit + code % implicit) * Nat.pow 2 (code / implicit - 1)

/-- The whole number nearest to a quotient; of two equally near ones the even one. -/
def nearestEven (num den : Nat) : Nat :=
  let whole := num / den
  let rest := num % den
  if 2 * rest < den ∨ (2 * rest = den ∧ whole % 2 = 0) then whole else whole + 1

/-- The code of the number nearest to `num / den`, ties to even, if exponents had no upper limit.
The quotient is rounded to a multiple of the spacing `2 ^ shift` of the numbers around it; as the
codes of neighbours are neighbours, rounding up to the next power of two needs no extra step. -/
def nearestCode (num den : Nat) : Nat :=
  -- Large factors stand first in products: a second factor is counted down when it is unfolded.
  let scaled := Nat.pow 2 1074 * num
  let shift := (scaled / den).log2 - 52
  Nat.pow 2 52 * shift + nearestEven scaled (den * Nat.pow 2 shift)

/-- The finite number nearest to `num / den`, unless rounding leads beyond the largest one. -/
def ofRatio? (num den : Nat) : Option Binary64 :=
  let code := nearestCode num den
  if code < infinity then some ⟨code.toUInt64⟩ else none

end Binary64

end LoxFrontEnd
