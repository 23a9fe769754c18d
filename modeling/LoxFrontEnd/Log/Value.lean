import LoxFrontEnd.Log.Pattern

/-!
# Values of fields

A log filter may ask for the value of a field. It is given as a number or else as a pattern; the two
differ in what may stand in front, as a pattern cannot begin with a plus sign.
-/
namespace LoxFrontEnd.Log.Value

/-- Whether a text is empty or the exponent of a number. -/
def isExponent : Text → Bool
  | [] => true
  | c :: t =>
    let digits := if t.head? = some '+' ∨ t.head? = some '-' then t.drop 1 else t
    (c == 'e' || c == 'E') && !digits.isEmpty && digits.all Char.isDigit

/-- Whether a text is a number without a sign: digits, of which some may stand behind a point, and
an exponent if one is wanted. -/
def isUnsigned (t : Text) : Bool :=
  let whole := t.takeWhile Char.isDigit
  match t.drop whole.length with
  | '.' :: rest =>
    let fraction := rest.takeWhile Char.isDigit
    !(whole ++ fraction).isEmpty && isExponent (rest.drop fraction.length)
  | rest => !whole.isEmpty && isExponent rest

/-- Names of what is no finite number, in small letters. -/
def names : List String := ["inf", "infinity", "nan"]

/-- Whether a text is a number, which may have a sign. -/
def isNumber (t : Text) : Bool :=
  let t := if t.head? = some '+' ∨ t.head? = some '-' then t.drop 1 else t
  isUnsigned t || names.contains (String.ofList (t.map Char.toLower))

/-- Whether a text can be asked for as a value. -/
def isUsable (t : Text) : Bool := isNumber t || Pattern.isUsable t

end LoxFrontEnd.Log.Value
