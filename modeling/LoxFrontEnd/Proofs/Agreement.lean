import LoxFrontEnd.Prompt

/-!
# Reporters in agreement

Of a reporter nothing but its count of errors is ever asked for. So reporters that agree on it and
go on agreeing, whatever they are told, cannot be told apart by what runs and sessions write or by
how they end.
-/
namespace LoxFrontEnd

variable {ρ σ : Type} [Reporter ρ] [Reporter σ]

/-- A relation between reporters that no call breaks. -/
structure Agreement (R : ρ → σ → Prop) : Prop where
  handle {r : ρ} {s : σ} (h : R r s) (call : Call) :
    R (Reporter.handle r call) (Reporter.handle s call)
  errorCount {r : ρ} {s : σ} (h : R r s) : Reporter.errorCount r = Reporter.errorCount s

/-- Runs with the same result and output, and with related reporters. -/
def Ran.Related (R : ρ → σ → Prop) (a : Ran ρ) (b : Ran σ) : Prop :=
  a.result = b.result ∧ R a.reporter b.reporter ∧ a.output = b.output

/-- Sessions that end alike with the same output, and with related reporters. -/
def SessionEnd.Related (R : ρ → σ → Prop) (a : SessionEnd ρ) (b : SessionEnd σ) : Prop :=
  a.failure = b.failure ∧ R a.reporter b.reporter ∧ a.output = b.output

namespace Agreement

variable {R : ρ → σ → Prop} {r : ρ} {s : σ}

theorem hadError (hR : Agreement R) (h : R r s) : Reporter.hadError r = Reporter.hadError s := by
  rw [Reporter.hadError, Reporter.hadError, hR.errorCount h]

theorem handleAll (hR : Agreement R) (h : R r s) (calls : List Call) :
    R (Reporter.handleAll r calls) (Reporter.handleAll s calls) := by
  induction calls generalizing r s with
  | nil => exact h
  | cons call calls ih => exact ih (hR.handle h call)

theorem run (hR : Agreement R) (h : R r s) (source : Text) (output : Channel) :
    Ran.Related R (run source r output) (run source s output) := by
  have hscan : R (scanInto source (Reporter.handle r (.begin source)))
      (scanInto source (Reporter.handle s (.begin source))) :=
    hR.handleAll (hR.handle h _) _
  unfold LoxFrontEnd.run
  obtain ⟨failure, written⟩ := output.writeFlushed (printTokens (tokens source))
  cases failure with
  | some cause => exact ⟨rfl, hscan, rfl⟩
  | none => exact ⟨by simp only [hR.hadError hscan], hscan, rfl⟩

theorem closeLine (hR : Agreement R) (h : R r s) (line : Nat) (outcome : Outcome) :
    R (closeLine line outcome r) (closeLine line outcome s) := by
  unfold LoxFrontEnd.closeLine
  cases outcome.hadError with
  | true => exact hR.handle (hR.handle h _) _
  | false => exact hR.handle h _

theorem runLine (hR : Agreement R) (h : R r s) (number : Nat) (line : List UInt8)
    (output : Channel) :
    SessionEnd.Related R (runLine number line r output) (runLine number line s output) := by
  obtain ⟨hresult, hreporter, houtput⟩ := hR.run h (lineSource line) output
  unfold LoxFrontEnd.runLine
  dsimp only
  rw [hresult, houtput]
  cases (LoxFrontEnd.run (lineSource line) s output).result with
  | error cause => exact ⟨rfl, hreporter, rfl⟩
  | ok outcome => exact ⟨rfl, hR.closeLine hreporter number outcome, rfl⟩

theorem promptFrom (hR : Agreement R) (h : R r s) (done : Nat) (output : Channel)
    (ending : Option Failure) (lines : List (List UInt8)) :
    SessionEnd.Related R (promptFrom done r output ending lines)
      (promptFrom done s output ending lines) := by
  induction lines generalizing done r s output with
  | nil =>
    unfold LoxFrontEnd.promptFrom
    obtain ⟨failure, written⟩ := output.writeFlushed promptMark
    cases failure with
    | some cause => exact ⟨rfl, h, rfl⟩
    | none =>
      cases ending with
      | some cause => exact ⟨rfl, h, rfl⟩
      | none => exact ⟨rfl, hR.handle h _, rfl⟩
  | cons line lines ih =>
    unfold LoxFrontEnd.promptFrom
    obtain ⟨failure, written⟩ := output.writeFlushed promptMark
    cases failure with
    | some cause => exact ⟨rfl, h, rfl⟩
    | none =>
      have hline := hR.runLine h (done + 1) line written
      obtain ⟨hfailure, hreporter, houtput⟩ := hline
      dsimp only
      rw [hfailure, houtput]
      cases hcause : (LoxFrontEnd.runLine (done + 1) line s written).failure with
      | some cause => exact hR.runLine h (done + 1) line written
      | none => exact ih hreporter (done + 1) _

/-- Sessions of reporters in agreement show the same and end alike. -/
theorem prompt (hR : Agreement R) (h : R r s) (input : Input) (output : Channel) :
    SessionEnd.Related R (prompt input r output) (prompt input s output) :=
  hR.promptFrom h 0 output input.failure input.lines

end Agreement

end LoxFrontEnd
