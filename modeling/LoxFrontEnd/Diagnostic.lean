import LoxFrontEnd.Span

/-!
# Diagnostics

A diagnostic says on which line of a source something is wrong, and possibly where exactly.
-/
namespace LoxFrontEnd

structure Diagnostic where
  line : Nat
  context : Text
  message : Text
  span : Option Span
  deriving DecidableEq, Repr

namespace Diagnostic

/-- The plain form, on one line. -/
def text (d : Diagnostic) : Text :=
  "[line ".toList ++ Text.ofNat d.line ++ "] Error".toList ++ d.context ++ ": ".toList ++ d.message

/-- The characters of a source that a diagnostic points at: those of its span, or else those of
its line. -/
def located? (d : Diagnostic) (source : Text) : Option Span :=
  (d.span.or (Span.ofLine? source d.line)).bind (·.fit? source.length)

/-- The message, after the context if there is one. -/
def title (d : Diagnostic) : Text :=
  match Text.trim d.context with
  | [] => d.message
  | context => context ++ ": ".toList ++ d.message

end Diagnostic

end LoxFrontEnd
