import LoxFrontEnd.Text.Utf8

/-!
# Escape sequences

A terminal is told how to show a text by escape sequences in it. `styled` puts a text into a style,
and `plain` takes every escape sequence out of a text, along with the control characters that show
nothing; `plainOutput` does so on the way to an output, where sequences outlast tabs and line ends.
What a text shows does not depend on where it is cut (`visible_append`).
-/
namespace LoxFrontEnd.Text

/-- The escape sequence `ESC [ parameter m`. -/
def escape (parameter : Text) : Text := '\x1b' :: '[' :: parameter ++ ['m']

/-- A text between the escape sequences that set its style and the one that ends it. -/
def styled (parameters : List Text) (t : Text) : Text :=
  parameters.flatMap escape ++ t ++ escape ['0']

/-- How far an escape sequence has come. -/
inductive EscapeState
  | outside
  /-- The escape character has come. -/
  | begun
  /-- Characters have come that ask for one more after them. -/
  | intermediate
  /-- `ESC [` has come, which a letter ends. -/
  | control
  /-- `ESC ]` has come, which the bell ends. -/
  | command
  /-- `ESC P` has come, the head of a string for the device. -/
  | device
  /-- Parameters have come in the head of such a string. -/
  | deviceParameters
  /-- Characters have come in that head that only its last one may follow. -/
  | deviceIntermediate
  /-- A string has begun, which goes on to the terminator of strings. -/
  | string
  deriving DecidableEq, Repr

namespace EscapeState

/-- Control characters that lay out text: tab, line feed, form feed, carriage return. -/
def isLayout (c : Char) : Bool := c == '\t' || c == '\n' || c == '\x0c' || c == '\r'

/-- Printing characters of ASCII from `low` on; those that can end a sequence are the last ones. -/
def isFrom (low : Nat) (c : Char) : Bool := low ≤ c.toNat && c.toNat < 0x7F

/-- The byte that ends a string. It ends one inside of a character, too. -/
def stringTerminator : UInt8 := 0x9C

/-- The state after a character. The escape character begins a new sequence at any place, cancel
and substitute end every sequence, and so does layout, except in a command or string. -/
def next (s : EscapeState) (c : Char) : EscapeState :=
  if c = '\x1b' then begun
  else if c = '\x18' ∨ c = '\x1a' then outside
  else match s with
  | outside => outside
  | begun =>
    if isLayout c then outside
    else if c = '[' then control
    else if c = ']' then command
    else if c = 'P' then device
    else if c = 'X' ∨ c = '^' ∨ c = '_' then string
    else if isFrom 0x30 c then outside
    else if isFrom 0x20 c then intermediate
    else begun
  | intermediate => if isLayout c || isFrom 0x30 c then outside else intermediate
  | control => if isLayout c || isFrom 0x40 c then outside else control
  | device =>
    if isFrom 0x40 c then string
    else if isFrom 0x30 c then deviceParameters
    else if isFrom 0x20 c then deviceIntermediate
    else device
  | deviceParameters =>
    if isFrom 0x3C c then string
    else if isFrom 0x20 c && !isFrom 0x30 c then deviceIntermediate
    else deviceParameters
  | deviceIntermediate => if isFrom 0x30 c then string else deviceIntermediate
  | command => if c = '\x07' then outside else command
  | string => if stringTerminator ∈ Utf8.encode [c] then outside else string

/-- Whether a character is shown. -/
def shows (s : EscapeState) (c : Char) : Bool :=
  match s with
  | outside => isLayout c || (0x20 ≤ c.toNat && c.toNat ≠ 0x7F)
  | begun | intermediate | control => isLayout c
  | command | device | deviceParameters | deviceIntermediate | string => false

/-- The state after a text. -/
def after (s : EscapeState) (t : Text) : EscapeState := t.foldl next s

end EscapeState

/-- What a text shows that comes in a given state. -/
def visible (s : EscapeState) : Text → Text
  | [] => []
  | c :: cs => if s.shows c then c :: visible (s.next c) cs else visible (s.next c) cs

/-- A text without escape sequences and hidden control characters. -/
def plain (t : Text) : Text := visible .outside t

/-- What an output shows of a text that comes in a given state. Layout does not end a sequence but
interrupts it: what follows is shown up to the next hidden character, with which the sequence goes
on. A character beyond ASCII ends a sequence that is interrupted. -/
def visibleOutput (s : EscapeState) (interrupted : Bool) : Text → Text
  | [] => []
  | c :: cs =>
    if (if interrupted then .outside else s).shows c then
      c :: visibleOutput (if c.toNat < 0x80 then s else .outside) true cs
    else visibleOutput (s.next c) false cs

/-- A text without escape sequences and hidden control characters, as an output gets it. -/
def plainOutput (t : Text) : Text := visibleOutput .outside false t

theorem visible_append (s : EscapeState) (t u : Text) :
    visible s (t ++ u) = visible s t ++ visible (s.after t) u := by
  induction t generalizing s with
  | nil => rfl
  | cons c cs ih =>
    rw [List.cons_append, visible, visible, ih]
    split <;> rfl

end LoxFrontEnd.Text
