import LoxFrontEnd.Run

/-!
# Scripts

A script is read as a whole, run once, and its faults decide the exit status.
-/
namespace LoxFrontEnd

/-- How a script ends, and what it leaves behind. -/
structure ScriptEnd (ρ : Type) where
  result : Except DriverError ExitStatus
  reporter : ρ
  output : Channel

variable {ρ : Type} [Reporter ρ]

/-- Runs the script at a path, if it can be read. -/
def runScript (read : Text → Except Failure (List UInt8)) (path : Text) (r : ρ)
    (output : Channel) : ScriptEnd ρ :=
  let r := Reporter.handle r (.note (.scriptStarted path))
  match read path with
  | .error cause => ⟨.error (.unreadable path cause), r, output⟩
  | .ok bytes =>
    let ran := run (Utf8.decode bytes) r output
    match ran.result with
    | .error cause => ⟨.error (.io cause), ran.reporter, ran.output⟩
    | .ok outcome =>
      let finished : Log.Event := .scriptFinished outcome.tokens outcome.hadError
      let r := Reporter.handle ran.reporter (.note finished)
      ⟨.ok (if outcome.hadError then .dataError else .success), r, ran.output⟩

end LoxFrontEnd
