import LoxFrontEnd.Diagnostic
import LoxFrontEnd.Log.Event

/-!
# Reporters

Whatever finds fault with a source hands diagnostics to a reporter and goes on. A reporter is told
when a source begins, what is wrong with it, and when earlier faults are to be forgotten, and it
counts the faults since then. What it does with diagnostics is its own affair.
-/
namespace LoxFrontEnd

/-- What a reporter is told. -/
inductive Call
  | begin (source : Text)
  | emit (diagnostic : Diagnostic)
  | reset
  | note (event : Log.Event)

/-- Reports a fault of which only the line is known. -/
def Call.report (line : Nat) (context message : Text) : Call := emit ⟨line, context, message, none⟩

/-- Reports a fault without any context. -/
def Call.error (line : Nat) (message : Text) : Call := report line [] message

/-- The number of faults after a call, if there were `errors` before it. -/
def Call.errorsAfter (errors : Nat) : Call → Nat
  | emit _ => errors + 1
  | reset => 0
  | begin _ | note _ => errors

/-- Something that can be told calls and counts faults. -/
class Reporter (ρ : Type) where
  handle : ρ → Call → ρ
  errorCount : ρ → Nat

/-- A reporter whose count is that of the faults since the last reset, whatever it does with
them. -/
class LawfulReporter (ρ : Type) [Reporter ρ] : Prop where
  errorCount_handle (r : ρ) (c : Call) :
    Reporter.errorCount (Reporter.handle r c) = c.errorsAfter (Reporter.errorCount r)

namespace Reporter

variable {ρ : Type} [Reporter ρ]

def hadError (r : ρ) : Bool := 0 < errorCount r

/-- Tells a reporter several things in order. -/
def handleAll (r : ρ) (calls : List Call) : ρ := calls.foldl handle r

@[simp] theorem handleAll_nil (r : ρ) : handleAll r [] = r := rfl

@[simp] theorem handleAll_cons (r : ρ) (c : Call) (cs : List Call) :
    handleAll r (c :: cs) = handleAll (handle r c) cs := rfl

/-- The count after several calls hangs on the count before them and on nothing else. -/
theorem errorCount_handleAll [LawfulReporter ρ] (r : ρ) (cs : List Call) :
    errorCount (handleAll r cs) = cs.foldl Call.errorsAfter (errorCount r) := by
  induction cs generalizing r with
  | nil => rfl
  | cons c cs ih =>
    rw [handleAll_cons, ih, LawfulReporter.errorCount_handle]
    rfl

end Reporter

end LoxFrontEnd
