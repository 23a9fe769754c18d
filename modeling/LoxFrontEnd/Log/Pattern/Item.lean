import LoxFrontEnd.Log.Pattern.Flags

/-!
# Items of a pattern

The least parts of a pattern: characters, classes of characters, and edges. There are no tables of
characters to match with, and what matches has to be whole characters; so which items a pattern may
use depends on its flags.
-/
namespace LoxFrontEnd.Log.Pattern

inductive Item
  /-- A character; `asByte` if it is given by its number as `\x41`. -/
  | literal (char : Char) (asByte : Bool)
  /-- Digits, blanks or the characters of words, or all others. -/
  | kind (negated : Bool)
  /-- A place between characters; `ofWord` if it depends on which characters are in words. -/
  | edge (ofWord : Bool)
  deriving DecidableEq, Repr

def isAscii (c : Char) : Bool := c.toNat < 0x80

/-- Characters that stand for themselves behind a backslash. -/
def isMark (c : Char) : Bool := isAscii c && !c.isAlphanum && c != '<' && c != '>'

def hexValue? (c : Char) : Option Nat :=
  if c.isDigit then some (c.toNat - 48)
  else if 'a' ≤ c ∧ c ≤ 'f' then some (c.toNat - 87)
  else if 'A' ≤ c ∧ c ≤ 'F' then some (c.toNat - 55)
  else none

/-- The number in the next `n` digits to base 16, behind digits of a value `before`. -/
def hexDigits? (f : Flags) : Nat → Nat → Text → Option (Nat × Text)
  | 0, before, t => some (before, t)
  | n + 1, before, t =>
    match f.skip t with
    | [] => none
    | c :: rest => do
      let digit ← hexValue? c
      hexDigits? f n (16 * before + digit) rest

/-- A character given by its number in `n` digits to base 16. -/
def numbered? (f : Flags) (n : Nat) (t : Text) : Option (Item × Text) := do
  let (code, rest) ← hexDigits? f n 0 t
  if code.isValidChar then some (.literal (Char.ofNat code) (n == 2), rest) else none

/-- The item behind a backslash, and the text behind it. -/
def escaped? (f : Flags) : Text → Option (Item × Text)
  | [] => none
  | c :: t =>
    if isMark c then some (.literal c false, t)
    else match c with
      | 'x' => numbered? f 2 t
      | 'u' => numbered? f 4 t
      | 'U' => numbered? f 8 t
      | 'd' | 's' | 'w' => some (.kind false, t)
      | 'D' | 'S' | 'W' => some (.kind true, t)
      | 'a' => some (.literal '\x07' false, t)
      | 'f' => some (.literal '\x0C' false, t)
      | 't' => some (.literal '\t' false, t)
      | 'n' => some (.literal '\n' false, t)
      | 'r' => some (.literal '\r' false, t)
      | 'v' => some (.literal '\x0B' false, t)
      | 'A' | 'z' => some (.edge false, t)
      | 'b' | 'B' | '<' | '>' => some (.edge true, t)
      | _ => none

/-- The item that begins with `c`, and the text behind it. -/
def item? (f : Flags) (c : Char) (t : Text) : Option (Item × Text) :=
  if c = '\\' then escaped? f t else some (.literal c false, t)

namespace Flags

/-- Whether an item may stand in a pattern. Without `u` a byte may not be part of a character, and
with it neither the other case of a letter nor what is in words can be told. -/
def admits (f : Flags) : Item → Bool
  | .literal c asByte => if f.unicode then !f.ignoreCase else isAscii c || !asByte
  | .kind negated => !f.unicode && !negated
  | .edge ofWord => !(f.unicode && ofWord)

/-- Whether an item may stand in brackets, where without `u` there are only bytes. -/
def admitsMember (f : Flags) : Item → Bool
  | .literal c _ => if f.unicode then !f.ignoreCase else isAscii c
  | .kind negated => !f.unicode && !negated
  | .edge _ => false

/-- Whether all characters between two items may stand in brackets. -/
def admitsRange (f : Flags) : Item → Item → Bool
  | .literal a x, .literal b y =>
    a ≤ b && f.admitsMember (.literal a x) && f.admitsMember (.literal b y)
  | _, _ => false

/-- Whether a class with a name may stand in brackets. -/
def admitsNamed (f : Flags) (negated : Bool) : Bool :=
  if f.unicode then !f.ignoreCase else !negated

/-- Whether brackets may mean all other characters. -/
def admitsSet (f : Flags) (negated : Bool) : Bool := f.unicode || !negated

end Flags

/-- The text behind one member of brackets, which begins with `c`: an item, or two with a hyphen
between them. -/
def member? (f : Flags) (c : Char) (t : Text) : Option Text := do
  let (first, rest) ← item? f c t
  let single : Option Text := if f.admitsMember first then some rest else none
  match f.skip rest with
  | '-' :: behind =>
    let next := f.following? behind
    if next = some ']' ∨ next = some '-' then single
    else match f.skip behind with
      | [] => none
      | d :: behind => do
        let (last, rest) ← item? f d behind
        if f.admitsRange first last then some rest else none
  | _ => single

def classNames : List String :=
  ["alnum", "alpha", "ascii", "blank", "cntrl", "digit", "graph", "lower", "print", "punct",
    "space", "upper", "word", "xdigit"]

/-- A class with a name, as `[:alpha:]` or `[:^alpha:]`: whether it is negated, and the text behind.
The first bracket has been read. -/
def named? (t : Text) : Option (Bool × Text) := do
  let t ← if t.head? = some ':' then some (t.drop 1) else none
  let negated := t.head? == some '^'
  let t := if negated then t.drop 1 else t
  let name := t.takeWhile (· != ':')
  match t.drop name.length with
  | ':' :: ']' :: rest =>
    if classNames.contains (String.ofList name) then some (negated, rest) else none
  | _ => none

end LoxFrontEnd.Log.Pattern
