import LoxFrontEnd.Lexeme
import LoxFrontEnd.Diagnostic

/-!
# Scanning

The lexemes of a source are placed: each is given the position it starts at and the line it ends
on. Its tokens and diagnostics are two views of this one list, so they are in the order of the
source, and the list takes up the source without gaps.
-/
namespace LoxFrontEnd

/-- A lexeme at its place in a source. -/
structure Element where
  lexeme : Lexeme
  start : Nat
  line : Nat
  deriving DecidableEq, Repr

namespace Element

/-- The position after the last character. -/
def stop (e : Element) : Nat := e.start + e.lexeme.text.length

def span (e : Element) : Span := ⟨e.start, e.stop⟩

def token? (e : Element) : Option Token :=
  match e.lexeme.role with
  | .token kind literal => some ⟨kind, e.lexeme.text, literal, e.line⟩
  | _ => none

/-- A fault is reported with the line it ends on. -/
def diagnostic? (e : Element) : Option Diagnostic :=
  match e.lexeme.role with
  | .fault fault => some ⟨e.line, [], fault.message, some e.span⟩
  | _ => none

/-- Places lexemes one after the other, from a position and a line on. -/
def place (start line : Nat) : List Lexeme → List Element
  | [] => []
  | l :: ls =>
    let stopLine := line + l.text.lineFeeds
    ⟨l, start, stopLine⟩ :: place (start + l.text.length) stopLine ls

end Element

/-- The placed lexemes of a source. -/
def scan (source : Text) : List Element := Element.place 0 1 (Lexeme.cut source)

/-- The line on which a source ends. -/
def lastLine (source : Text) : Nat := 1 + source.lineFeeds

/-- The tokens of a source, and the end of file after them. -/
def tokens (source : Text) : List Token :=
  (scan source).filterMap Element.token? ++ [Token.endOfFile (lastLine source)]

/-- What is wrong with a source, from left to right. -/
def diagnostics (source : Text) : List Diagnostic := (scan source).filterMap Element.diagnostic?

end LoxFrontEnd
