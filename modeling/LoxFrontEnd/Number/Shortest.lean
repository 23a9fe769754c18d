import LoxFrontEnd.Number.Decimal

/-!
# Printing numbers

A finite number is printed with the fewest digits that read back as the same number. Digits are
sought on grids of multiples of a power of ten, coarse grids first; on each grid the two
neighbours of the number are tried by reading them back. Of two that fit the nearer is taken, and
the larger one if they are equally near.
-/
namespace LoxFrontEnd.Binary64

/-- The size of a finite number without rounding. -/
def exactly (x : Binary64) : Decimal := ⟨Nat.pow 5 1074 * units x.code, -1074⟩

/-- A power of ten above the size of a finite number, as an exponent. -/
def ceilingExponent (x : Binary64) : Int :=
  (((units x.code).log2 : Int) + 1 - 1074) * 30103 / 100000 + 1

/-- The multiple of `10 ^ exponent` that reads back as the number without its sign and lies
nearest to it. -/
def onGrid? (x : Binary64) (exponent : Int) : Option Decimal :=
  let num := units x.code * Nat.pow 10 (-exponent).toNat
  let den := Nat.pow 2 1074 * Nat.pow 10 exponent.toNat
  let below : Decimal := ⟨num / den, exponent⟩
  let above : Decimal := ⟨num / den + 1, exponent⟩
  let fits (d : Decimal) : Bool := d.nearest?.map code == some x.code
  match fits below, fits above with
  | true, true => if 2 * (num % den) < den then some below else some above
  | true, false => some below
  | false, true => some above
  | false, false => none

/-- The shortest decimal that reads back as a finite number without its sign. -/
def shortest (x : Binary64) : Decimal :=
  if x.code = 0 then ⟨0, 0⟩
  else ((List.range 20).findSome? fun (i : Nat) => x.onGrid? (x.ceilingExponent - i)).getD x.exactly

/-- A number in print: positional, whole numbers with a fraction of zero. -/
def text (x : Binary64) : Text :=
  if x.isNaN then "NaN".toList
  else
    let sign : Text := if x.isNegative then ['-'] else []
    if x.isFinite then sign ++ x.shortest.positional else sign ++ "inf".toList

end LoxFrontEnd.Binary64
