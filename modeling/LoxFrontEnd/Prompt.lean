import LoxFrontEnd.Run

/-!
# The prompt

A session at the prompt runs its input line by line. Every line is a source of its own: the
reporter is reset after it, so faults in one line do not count in the next. The session ends with
its input, or when reading or writing fails.
-/
namespace LoxFrontEnd

/-- What a session reads: the lines it gets, and the failure after them if there is one. -/
structure Input where
  lines : List (List UInt8)
  failure : Option Failure
  deriving Repr

namespace Input

/-- The byte that ends a line. -/
def lineFeed : UInt8 := 0x0A

/-- Cuts bytes after each line feed. What follows the last one is a line if there is anything. -/
def cutLines : List UInt8 → List (List UInt8)
  | [] => []
  | b :: bs =>
    if b = lineFeed then [b] :: cutLines bs
    else match cutLines bs with
      | [] => [[b]]
      | line :: lines => (b :: line) :: lines

/-- Input of some bytes. If reading fails after them, a last line without its line feed is never
delivered. -/
def ofBytes (bytes : List UInt8) (failure : Option Failure) : Input :=
  let lines := cutLines bytes
  ⟨if failure.isSome then lines.filter (·.getLast? = some lineFeed) else lines, failure⟩

end Input

/-- Takes off a line feed, or a carriage return and a line feed, at the end of a text. -/
def stripLineEnd (t : Text) : Text :=
  match t.reverse with
  | '\n' :: '\r' :: cs => cs.reverse
  | '\n' :: cs => cs.reverse
  | _ => t

/-- The source that a line of input holds. -/
def lineSource (line : List UInt8) : Text := stripLineEnd (Utf8.decode line)

/-- Shown before every line is read. -/
def promptMark : Text := ['>', ' ']

/-- How a session ends, and what it leaves behind. -/
structure SessionEnd (ρ : Type) where
  failure : Option Failure
  reporter : ρ
  output : Channel

variable {ρ : Type} [Reporter ρ]

/-- Forgets the faults of line number `line` after it has been run. -/
def closeLine (line : Nat) (outcome : Outcome) (r : ρ) : ρ :=
  let r := if outcome.hadError then Reporter.handle r (.note (.lineDiscarded line)) else r
  Reporter.handle r .reset

/-- Runs line number `number`. Its faults are forgotten once its tokens have been printed. -/
def runLine (number : Nat) (line : List UInt8) (r : ρ) (output : Channel) : SessionEnd ρ :=
  let ran := run (lineSource line) r output
  match ran.result with
  | .error cause => ⟨some cause, ran.reporter, ran.output⟩
  | .ok outcome => ⟨none, closeLine number outcome ran.reporter, ran.output⟩

/-- What is left to do when no more lines come. -/
def endInput (done : Nat) (r : ρ) (output : Channel) : Option Failure → SessionEnd ρ
  | some cause => ⟨some cause, r, output⟩
  | none => ⟨none, Reporter.handle r (.note (.inputClosed done)), output⟩

/-- A session in which `done` lines have been run and `lines` are still to come. -/
def promptFrom (done : Nat) (r : ρ) (output : Channel) (ending : Option Failure) :
    List (List UInt8) → SessionEnd ρ
  | [] =>
    match output.writeFlushed promptMark with
    | (some cause, output) => ⟨some cause, r, output⟩
    | (none, output) => endInput done r output ending
  | line :: lines =>
    match output.writeFlushed promptMark with
    | (some cause, output) => ⟨some cause, r, output⟩
    | (none, output) =>
      let ended := runLine (done + 1) line r output
      match ended.failure with
      | some _ => ended
      | none => promptFrom (done + 1) ended.reporter ended.output ending lines

/-- A session at the prompt. -/
def prompt (input : Input) (r : ρ) (output : Channel) : SessionEnd ρ :=
  promptFrom 0 r output input.failure input.lines

end LoxFrontEnd
