import LoxFrontEnd.Arguments.Messages
import LoxFrontEnd.Prompt
import LoxFrontEnd.Script

/-!
# The command

What the command does with its arguments, from reading them to the exit status. Everything it can
see of the world is in its `Surroundings`, and all it does is in its `Ending`.
-/
namespace LoxFrontEnd

/-- What a command is run in. -/
structure Surroundings where
  /-- The value of an environment variable, if it is set. -/
  environment : String → Option Text
  /-- The contents of files, or why they cannot be read. -/
  read : Text → Except Failure (List UInt8)
  input : Input
  output : Channel
  errors : Channel
  /-- Whether a terminal shows diagnostics. -/
  terminal : Bool

namespace Surroundings

/-- The format of diagnostics, if the environment names one. -/
def format (s : Surroundings) : Option Text := s.environment "LOX_DIAGNOSTICS"

/-- The environment variables that are looked at. -/
def variableNames : List String := ["LOX_DIAGNOSTICS", "LOX_LOG", "NO_COLOR", "CLICOLOR_FORCE"]

/-- Whether a variable says yes, which any value but an empty one does. -/
def isSwitchedOn (s : Surroundings) (name : String) : Bool := (s.environment name).any (· ≠ [])

/-- Whether the environment asks for no colours. -/
def isColorless (s : Surroundings) : Bool := s.isSwitchedOn "NO_COLOR"

/-- Whether the environment asks for styles in the help even where no terminal shows it. -/
def forcesStyles (s : Surroundings) : Bool := !s.isColorless && s.isSwitchedOn "CLICOLOR_FORCE"

/-- What is logged. -/
def log (s : Surroundings) : Log :=
  ⟨.ofSetting (s.environment "LOX_LOG"), !s.isColorless⟩

end Surroundings

/-- How a command ends, and what it has written. -/
structure Ending where
  status : ExitStatus
  output : Channel
  errors : Channel

namespace Command

/-- Printed where the command line makes no sense. -/
def usage : Text := "Usage: lox [script]\n".toList

/-- The sessions at the prompt go by this name in snippets. -/
def promptOrigin : Text := "<repl>".toList

/-- The console of the command itself. -/
def console (s : Surroundings) (style : Style) (origin : Text) : Console :=
  { Console.new s.errors style origin with log := s.log }

/-- Prints how the command is used, which is a failure even if it can be printed. -/
def showUsage (c : Console) (output : Channel) : Ending :=
  let (failure, output) := output.write usage
  let c := match failure with
    | none => c
    | some cause => c.note (.usageLost cause)
  ⟨.usage, output, c.channel⟩

/-- Answers a command line that gives no options: with the help or the version if it asks for
them, or else with what is wrong. -/
def reject (s : Surroundings) (arguments : List Text) (e : ArgumentError) : Ending :=
  let c := console s .plain []
  let program := programName arguments
  if e.isAnswer then
    let text := e.styledText program s.format
    let (failure, output) := s.output.write (if s.forcesStyles then text else Text.plainOutput text)
    let c := match failure with
      | none => c
      | some cause => c.note (.helpLost cause)
    ⟨.success, output, c.channel⟩
  else
    let c := c.note (.argumentsRejected e.kindName.toList)
    showUsage (c.print (e.text program s.format)) s.output

/-- Says why the driver has stopped. -/
def stop (c : Console) (output : Channel) (e : DriverError) : Ending :=
  let c := (c.note (.driverFailed e)).print ("lox: ".toList ++ e.text ++ ['\n'])
  ⟨e.status, output, c.channel⟩

/-- Does what the options ask for. -/
def dispatch (s : Surroundings) (o : Options) : Ending :=
  let style := o.style s.terminal
  match o.invocation with
  | .usage => showUsage (console s style []) s.output
  | .script path =>
    let done := runScript s.read path (console s style path) s.output
    match done.result with
    | .ok status => ⟨status, done.output, done.reporter.channel⟩
    | .error e => stop done.reporter done.output e
  | .prompt =>
    let done := prompt s.input (console s style promptOrigin) s.output
    match done.failure with
    | none => ⟨.success, done.output, done.reporter.channel⟩
    | some cause => stop done.reporter done.output (.io cause)

/-- Runs the command. The first argument is the name of the program. -/
def execute (s : Surroundings) (arguments : List Text) : Ending :=
  match readArguments (arguments.drop 1) s.format with
  | .ok o => dispatch s o
  | .error e => reject s arguments e

end Command

end LoxFrontEnd
