import LoxFrontEnd.Command

/-!
# Program

The command with the real world around it. Nothing is decided here: input is read, the command is
run, and what it has written is passed on. At the prompt this is done line by line, so that every
line is answered before the next one is read.
-/
namespace LoxFrontEnd.Program

/-- An error number, which may be given as its negative. -/
def positive (n : UInt32) : Nat := min n.toNat (-n).toNat

/-- The error number of a failed system call. -/
def errorNumber? : IO.Error → Option Nat
  | .noFileOrDirectory _ n _ | .inappropriateType _ n _ | .invalidArgument _ n _
  | .permissionDenied _ n _ | .resourceExhausted _ n _ | .noSuchThing _ n _
  | .resourceVanished n _ | .otherError n _ => some (positive n)
  | _ => none

def failureOf (e : IO.Error) : Failure :=
  let known : List SystemError :=
    [.noSuchFile, .notADirectory, .isADirectory, .noSpace, .brokenPipe, .nameTooLong]
  match errorNumber? e with
  | some n => match known.find? (·.number = n) with
    | some error => .system error
    | none => .described .other (toString e).toList
  | none => .described .other (toString e).toList

/-- Runs an action that may fail. -/
def attempt {α : Type} (action : IO α) : IO (Except Failure α) := do
  match ← action.toBaseIO with
  | .ok a => return .ok a
  | .error e => return .error (failureOf e)

/-- Passes on what a channel has kept since it held `since` bytes. -/
def passOn (stream : IO.FS.Stream) (c : Channel) (since : Nat) : IO (Option Failure) := do
  let action : IO Unit := do
    stream.write ⟨c.kept.extract since c.kept.size⟩
    stream.flush
  match ← attempt action with
  | .ok _ => return none
  | .error cause => return some cause

/-- Passes on diagnostics; if they cannot be shown they are lost. -/
def passOnErrors (c : Channel) (since : Nat) : IO Unit := do
  let _ ← passOn (← IO.getStderr) c since

/-- Ends the program with what the command has written to its errors. -/
def finish (ending : Ending) (since : Nat) : IO UInt32 := do
  passOnErrors ending.errors since
  return ending.status.code.toUInt32

/-- Reads bytes up to and including the next line feed, or up to the end of input. -/
partial def readLine (input : IO.FS.Stream) (line : List UInt8) : IO (List UInt8) := do
  match (← input.read 1).toList with
  | [] => return line.reverse
  | b :: _ =>
    if b = Input.lineFeed then return (b :: line).reverse else readLine input (b :: line)

/-- The prompt after `done` lines, with a console that has shown `shown` bytes. -/
partial def promptLoop (done : Nat) (c : Console) (shown : Nat) : IO UInt32 := do
  let output ← IO.getStdout
  let stop (c : Console) (cause : Failure) : IO UInt32 :=
    finish (Command.stop c .unlimited (.io cause)) shown
  let marked := Channel.unlimited.write promptMark
  match ← passOn output marked.2 0 with
  | some cause => stop c cause
  | none =>
    match ← attempt (readLine (← IO.getStdin) []) with
    | .error cause => stop c cause
    | .ok [] =>
      let ended := endInput done c .unlimited none
      finish ⟨.success, ended.output, ended.reporter.channel⟩ shown
    | .ok line =>
      let ended := runLine (done + 1) line c .unlimited
      passOnErrors ended.reporter.channel shown
      match ← passOn output ended.output 0 with
      | some cause =>
        finish (Command.stop ended.reporter .unlimited (.io cause)) ended.reporter.channel.kept.size
      | none => promptLoop (done + 1) ended.reporter ended.reporter.channel.kept.size

/-- Runs a command that needs no prompt. If its output cannot be passed on, it has run into an
output that takes nothing. -/
def runAtOnce (s : Surroundings) (arguments : List Text) : IO UInt32 := do
  let ending := Command.execute s arguments
  match ← passOn (← IO.getStdout) ending.output 0 with
  | none => finish ending 0
  | some cause => finish (Command.execute { s with output := .limited 0 cause } arguments) 0

def start (arguments : List Text) : IO UInt32 := do
  let values ← Surroundings.variableNames.mapM fun name => return (name, ← IO.getEnv name)
  let surroundings : Surroundings := {
    environment := fun name => ((values.lookup name).join).map String.toList
    read := fun _ => .error (.kind .notFound)
    input := ⟨[], none⟩
    output := .unlimited
    errors := .unlimited
    terminal := ← (← IO.getStderr).isTty }
  match readArguments (arguments.drop 1) surroundings.format with
  | .error _ => runAtOnce surroundings arguments
  | .ok o =>
    match o.invocation with
    | .usage => runAtOnce surroundings arguments
    | .script path =>
      let contents ← attempt (IO.FS.readBinFile (String.ofList path))
      runAtOnce { surroundings with read := fun _ => contents.map ByteArray.toList } arguments
    | .prompt =>
      promptLoop 0
        (Command.console surroundings (o.style surroundings.terminal) Command.promptOrigin) 0

end LoxFrontEnd.Program

/-- The command line of the program. -/
def main (arguments : List String) : IO UInt32 := do
  LoxFrontEnd.Program.start ((← IO.appPath).toString.toList :: arguments.map String.toList)
