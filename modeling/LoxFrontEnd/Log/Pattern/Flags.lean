import LoxFrontEnd.Text.Basic

/-!
# Flags of a pattern

A pattern can switch how it is read: `(?i)` from there to the end of the group, `(?i:a)` for a group
of its own. Of the seven flags three have a say in whether a pattern can be used; these are kept.
-/
namespace LoxFrontEnd.Log.Pattern

structure Flags where
  /-- `i`: letters match in either case. -/
  ignoreCase : Bool
  /-- `u`: the pattern is about characters, not about bytes. -/
  unicode : Bool
  /-- `x`: blanks and comments in the pattern mean nothing. -/
  spaced : Bool
  deriving DecidableEq, Repr

namespace Flags

/-- The flags at the beginning of a pattern. -/
def initial : Flags := ⟨false, true, false⟩

/-- The letters of all flags, also of those that are not kept. -/
def letters : Text := "imsURux".toList

/-- Switches some flags on and others off. None may be named twice. -/
def switch? (f : Flags) (on off : Text) : Option Flags :=
  let named := on ++ off
  let now (letter : Char) (before : Bool) : Bool :=
    on.contains letter || before && !off.contains letter
  if named.all letters.contains ∧ named.Nodup then
    some ⟨now 'i' f.ignoreCase, now 'u' f.unicode, now 'x' f.spaced⟩
  else none

/-- The flags after the text between `(?` and `:` or `)`. Behind a hyphen flags are switched off,
and then there has to be one. -/
def after? (f : Flags) (t : Text) : Option Flags :=
  match Text.cutAt '-' t with
  | [on] => f.switch? on []
  | [on, off] => if off = [] then none else f.switch? on off
  | _ => none

/-- The text behind blanks and comments. A comment is from `#` to the end of the line. -/
def skipBlanks (inComment : Bool) : Text → Text
  | [] => []
  | c :: t =>
    if inComment then skipBlanks (c != '\n') t
    else if c == '#' then skipBlanks true t
    else if Text.isWhiteSpace c then skipBlanks false t
    else c :: t

/-- The text from where something has a meaning. -/
def skip (f : Flags) (t : Text) : Text := if f.spaced then skipBlanks false t else t

/-- The character by which a hyphen is judged: the next one, or with `x` the next one that is
neither a blank nor the first sign of a comment. -/
def following? (f : Flags) (t : Text) : Option Char :=
  if f.spaced then
    match t.dropWhile Text.isWhiteSpace with
    | '#' :: rest => (rest.dropWhile Text.isWhiteSpace).head?
    | rest => rest.head?
  else t.head?

end Flags

end LoxFrontEnd.Log.Pattern
