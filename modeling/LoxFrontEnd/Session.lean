import LoxFrontEnd.Prompt

/-!
# Sessions

One reporter can live through many runs, prompts and calls. A session performs them in order and
shows after each what it has answered and what has become of the reporter.
-/
namespace LoxFrontEnd

/-- Something done with a reporter. -/
inductive Step
  | run (source : Text) (output : Channel)
  | prompt (input : Input) (output : Channel)
  /-- Scans a source without announcing it. -/
  | scan (source : Text)
  | tell (call : Call)

/-- What a step answers. -/
inductive Answer
  | ran (result : Except Failure Outcome) (output : Channel)
  | prompted (failure : Option Failure) (output : Channel)
  | scanned (tokens : List Token)
  | told

variable {ρ : Type} [Reporter ρ]

/-- A step's answer, and the reporter after it. -/
def Step.perform (r : ρ) : Step → Answer × ρ
  | .run source output =>
    let ran := LoxFrontEnd.run source r output
    (.ran ran.result ran.output, ran.reporter)
  | .prompt input output =>
    let ended := LoxFrontEnd.prompt input r output
    (.prompted ended.failure ended.output, ended.reporter)
  | .scan source => (.scanned (tokens source), scanInto source r)
  | .tell call => (.told, Reporter.handle r call)

/-- What the steps of a session answer, each with the reporter after it. -/
def session (r : ρ) : List Step → List (Answer × ρ)
  | [] => []
  | step :: steps => step.perform r :: session (step.perform r).2 steps

end LoxFrontEnd
