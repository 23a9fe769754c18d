import LoxFrontEnd.Failure
import LoxFrontEnd.Text.Escapes
import LoxFrontEnd.Token

/-!
# Log events

What the front end does can be followed in a log. An event knows the part of the program it comes
from, how serious it is, and the values that go with it; `line` is the line that shows all of
these.
-/
namespace LoxFrontEnd.Log

/-- How much an event matters, the most serious first. -/
inductive Level
  | error
  | warn
  | info
  | debug
  | trace
  deriving DecidableEq, Repr

/-- Levels count up from the most serious. -/
def Level.rank : Level → Nat
  | error => 1
  | warn => 2
  | info => 3
  | debug => 4
  | trace => 5

inductive Event
  | scriptStarted (path : Text)
  | scriptFinished (tokens : Nat) (hadError : Bool)
  | tokenScanned (token : Token)
  | scanFinished (tokens : Nat)
  | faultReported (line : Nat) (message : Text)
  | diagnosticLost (cause : Failure)
  | lineDiscarded (line : Nat)
  | inputClosed (lines : Nat)
  | argumentsRejected (kind : Text)
  | driverFailed (error : DriverError)
  | helpLost (cause : Failure)
  | usageLost (cause : Failure)

namespace Event

def level : Event → Level
  | tokenScanned _ | scanFinished _ => .trace
  | diagnosticLost _ | helpLost _ | usageLost _ => .warn
  | _ => .debug

/-- The part of the program an event comes from. -/
def target : Event → String
  | scriptStarted _ | scriptFinished _ _ => "lox::runner"
  | tokenScanned _ | scanFinished _ => "lox::lexer"
  | faultReported _ _ | diagnosticLost _ => "lox::reporter"
  | lineDiscarded _ | inputClosed _ => "lox::repl"
  | argumentsRejected _ | driverFailed _ | helpLost _ | usageLost _ => "lox::cli"

def message : Event → String
  | scriptStarted _ => "running script"
  | scriptFinished _ _ => "script finished"
  | tokenScanned _ => "token"
  | scanFinished _ => "scanned tokens"
  | faultReported _ _ => "source error reported"
  | diagnosticLost _ => "could not write diagnostic"
  | lineDiscarded _ => "line had errors, resetting"
  | inputClosed _ => "input closed, leaving prompt"
  | argumentsRejected _ => "could not parse arguments"
  | driverFailed _ => "driver failed"
  | helpLost _ => "could not print help"
  | usageLost _ => "could not print usage"

/-- The values of an event, each with its name. -/
def fields : Event → List (String × Text)
  | scriptStarted path => [("path", path)]
  | scriptFinished tokens hadError =>
    [("tokens", Text.ofNat tokens), ("had_error", (toString hadError).toList)]
  | tokenScanned token => [("token", token.text), ("line", Text.ofNat token.line)]
  | scanFinished tokens => [("count", Text.ofNat tokens)]
  | faultReported line message => [("line", Text.ofNat line), ("text", message)]
  | diagnosticLost cause | helpLost cause | usageLost cause => [("error", cause.text)]
  | lineDiscarded line => [("line", Text.ofNat line)]
  | inputClosed lines => [("lines", Text.ofNat lines)]
  | argumentsRejected kind => [("kind", kind)]
  | driverFailed error => [("error", error.details)]

/-- The names of an event's fields, of which the message is one. -/
def fieldNames (e : Event) : List Text := "message".toList :: e.fields.map (·.1.toList)

/-- The name of a level, five characters wide. -/
def tag : Level → Text
  | .error => "ERROR".toList
  | .warn => " WARN".toList
  | .info => " INFO".toList
  | .debug => "DEBUG".toList
  | .trace => "TRACE".toList

/-- The colour of a level, as a parameter of an escape sequence. -/
def colorOf : Level → Text
  | .error => "31".toList
  | .warn => "33".toList
  | .info => "32".toList
  | .debug => "34".toList
  | .trace => "35".toList

/-- The line that shows an event, with or without colours. -/
def line (e : Event) (color : Bool) : Text :=
  let styled (parameter t : Text) : Text := if color then Text.styled [parameter] t else t
  let dim : Text := ['2']
  let italic : Text := ['3']
  let field : String × Text → Text := fun (name, value) =>
    ' ' :: styled italic name.toList ++ styled dim ['='] ++ value
  styled (colorOf e.level) (tag e.level) ++ ' ' :: styled dim e.target.toList ++
    styled dim [':'] ++ ' ' :: e.message.toList ++ e.fields.flatMap field ++ ['\n']

end Event

end LoxFrontEnd.Log
