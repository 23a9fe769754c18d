import LoxFrontEnd.Number.Binary64
import LoxFrontEnd.Text.Basic

/-!
# Decimals

A decimal is a whole number of some power of ten. `ofText` reads one from digits with an optional
fraction, `positional` writes one without an exponent and always with a fraction, and `nearest?`
rounds it to a binary number.
-/
namespace LoxFrontEnd

/-- The number `digits * 10 ^ exponent`. -/
structure Decimal where
  digits : Nat
  exponent : Int
  deriving DecidableEq, Repr

namespace Decimal

def numerator (d : Decimal) : Nat := d.digits * Nat.pow 10 d.exponent.toNat

def denominator (d : Decimal) : Nat := Nat.pow 10 (-d.exponent).toNat

/-- The finite binary number nearest to a decimal, if the decimal is not too large. -/
def nearest? (d : Decimal) : Option Binary64 := Binary64.ofRatio? d.numerator d.denominator

/-- The number written by decimal digits. -/
def valueOf (digits : Text) : Nat :=
  digits.foldl (fun n c => n * 10 + (c.toNat - '0'.toNat)) 0

/-- Reads digits, or digits on both sides of a point. -/
def ofText (t : Text) : Decimal :=
  let whole := t.takeWhile (· != '.')
  let fraction := (t.dropWhile (· != '.')).drop 1
  ⟨valueOf (whole ++ fraction), -(fraction.length : Int)⟩

/-- The digits before and after the point, with at least one on either side. -/
def positional (d : Decimal) : Text :=
  if 0 ≤ d.exponent then Text.ofNat d.numerator ++ ['.', '0']
  else
    let places := (-d.exponent).toNat
    let digits := Text.ofNat d.digits
    let padded := List.replicate (places + 1 - digits.length) '0' ++ digits
    let point := padded.length - places
    padded.take point ++ '.' :: padded.drop point

end Decimal

end LoxFrontEnd
