import LoxFrontEnd.Scan
import LoxFrontEnd.Reporter
import LoxFrontEnd.Channel

/-!
# Running a source

A run tells the reporter what is wrong with a source and writes the tokens of the source to the
output, one after the other. Only the output can make a run fail, and by then the reporter has
been told everything.
-/
namespace LoxFrontEnd

/-- What a reporter is told about a lexeme: tokens are for the log, faults are reported. -/
def Element.call? (e : Element) : Option Call :=
  (e.token?.map (.note <| .tokenScanned ·)).or (e.diagnostic?.map .emit)

/-- What a reporter is told while a source is scanned. -/
def scanCalls (source : Text) : List Call :=
  (scan source).filterMap Element.call? ++ [.note (.scanFinished (tokens source).length)]

/-- Tokens in print, each followed by a line feed. -/
def printTokens (ts : List Token) : Text := ts.flatMap fun t => t.text ++ ['\n']

/-- What a completed run says about its source. -/
structure Outcome where
  tokens : Nat
  hadError : Bool
  deriving DecidableEq, Repr

/-- How a run ends, and what it leaves behind. -/
structure Ran (ρ : Type) where
  result : Except Failure Outcome
  reporter : ρ
  output : Channel

variable {ρ : Type} [Reporter ρ]

/-- Scans a source without announcing it. -/
def scanInto (source : Text) (r : ρ) : ρ := Reporter.handleAll r (scanCalls source)

/-- Scans a source and prints its tokens. -/
def run (source : Text) (r : ρ) (output : Channel) : Ran ρ :=
  let r := scanInto source (Reporter.handle r (.begin source))
  let (failure, output) := output.writeFlushed (printTokens (tokens source))
  match failure with
  | some cause => ⟨.error cause, r, output⟩
  | none => ⟨.ok ⟨(tokens source).length, Reporter.hadError r⟩, r, output⟩

end LoxFrontEnd
