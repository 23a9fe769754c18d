import LoxFrontEnd.Session
import LoxFrontEnd.Reporter.Console
import LoxFrontEnd.Proofs.PromptSession
import Mathlib.Data.List.DropRight

/-!
# Indifference to reporters

It does not matter to a program which reporter it uses. Whatever is done with two reporters, one
step after the other, they count the same errors after every step, and the steps answer the same
(`session_indifferent`). The count is that of the diagnostics since the last reset, also if a
console could not show them.
-/
namespace LoxFrontEnd

/-- A reporter of one kind or the other. -/
inductive AnyReporter
  | console (c : Console)
  | collection (c : Collection)

namespace AnyReporter

def handle : AnyReporter → Call → AnyReporter
  | console c, call => console (Reporter.handle c call)
  | collection c, call => collection (Reporter.handle c call)

def errorCount : AnyReporter → Nat
  | console c => Reporter.errorCount c
  | collection c => Reporter.errorCount c

instance : Reporter AnyReporter := ⟨handle, errorCount⟩

instance : LawfulReporter AnyReporter where
  errorCount_handle r call := by
    cases r with
    | console c => exact LawfulReporter.errorCount_handle c call
    | collection c => exact LawfulReporter.errorCount_handle c call

end AnyReporter

/-- Which reporter is used. -/
inductive ReporterChoice
  | console (channel : Channel) (style : Style) (origin : Text)
  | collection

/-- The reporter before it is told anything. -/
def ReporterChoice.fresh : ReporterChoice → AnyReporter
  | console channel style origin => .console (.new channel style origin)
  | collection => .collection .empty

theorem ReporterChoice.errorCount_fresh (choice : ReporterChoice) :
    Reporter.errorCount choice.fresh = 0 := by
  cases choice <;> rfl

/-- The diagnostic that an entry is about. -/
def Entry.diagnostic? : Entry → Option Diagnostic
  | emit d => some d
  | begin _ _ | reset => none

/-- The diagnostics on record since the last reset. -/
def sinceReset (entries : List Entry) : List Diagnostic :=
  (entries.rtakeWhile (· ≠ .reset)).filterMap Entry.diagnostic?

section

variable {ρ σ : Type} [Reporter ρ] [Reporter σ]

/-- What can be seen of a session: after each step its answer, the number of errors, and whether
there is any. -/
def observations (r : ρ) (steps : List Step) : List (Answer × Nat × Bool) :=
  (session r steps).map fun (answer, r) => (answer, Reporter.errorCount r, Reporter.hadError r)

namespace Agreement

variable {R : ρ → σ → Prop} {r : ρ} {s : σ}

theorem perform (hR : Agreement R) (h : R r s) (step : Step) :
    (step.perform r).1 = (step.perform s).1 ∧ R (step.perform r).2 (step.perform s).2 := by
  cases step with
  | run source output =>
    obtain ⟨hresult, hreporter, houtput⟩ := hR.run h source output
    exact ⟨by simp only [Step.perform, hresult, houtput], hreporter⟩
  | prompt input output =>
    obtain ⟨hfailure, hreporter, houtput⟩ := hR.prompt h input output
    exact ⟨by simp only [Step.perform, hfailure, houtput], hreporter⟩
  | scan source => exact ⟨rfl, hR.handleAll h _⟩
  | tell call => exact ⟨rfl, hR.handle h call⟩

theorem session (hR : Agreement R) (h : R r s) (steps : List Step) :
    List.Forall₂ (fun a b => a.1 = b.1 ∧ R a.2 b.2) (session r steps) (session s steps) := by
  induction steps generalizing r s with
  | nil => exact .nil
  | cons step steps ih =>
    have hstep := hR.perform h step
    exact .cons hstep (ih hstep.2)

theorem observations (hR : Agreement R) (h : R r s) (steps : List Step) :
    observations r steps = observations s steps := by
  rw [LoxFrontEnd.observations, LoxFrontEnd.observations, ← List.forall₂_eq_eq_eq,
    List.forall₂_map_left_iff, List.forall₂_map_right_iff]
  refine (hR.session h steps).imp fun a b hab => ?_
  simp only [hab.1, hR.errorCount hab.2, hR.hadError hab.2]

end Agreement

/-- Lawful reporters with the same count go on counting the same. -/
theorem agreement_of_lawful [LawfulReporter ρ] [LawfulReporter σ] :
    Agreement fun (r : ρ) (s : σ) => Reporter.errorCount r = Reporter.errorCount s where
  handle h call := by
    rw [LawfulReporter.errorCount_handle, LawfulReporter.errorCount_handle, h]
  errorCount h := h

end

section

variable {ρ : Type} [Reporter ρ] [LawfulReporter ρ]

/-- The count of a reporter is that of the diagnostics on its record since the last reset. -/
def Overheard.IsCounted (o : Overheard ρ) : Prop :=
  Reporter.errorCount o = (sinceReset o.entries).length

theorem Overheard.IsCounted.handle {o : Overheard ρ} (h : o.IsCounted) (call : Call) :
    (Reporter.handle o call).IsCounted := by
  have hcount : Reporter.errorCount (Reporter.handle o call) =
      call.errorsAfter (Reporter.errorCount o) :=
    LawfulReporter.errorCount_handle o.reporter call
  rw [IsCounted, hcount, h, Overheard.entries_handle]
  cases call with
  | begin source => simp [Call.entry?, sinceReset, Call.errorsAfter, Entry.diagnostic?]
  | emit d => simp [Call.entry?, sinceReset, Call.errorsAfter, Entry.diagnostic?]
  | reset => simp [Call.entry?, sinceReset, Call.errorsAfter]
  | note event => simp [Call.entry?, sinceReset, Call.errorsAfter]

/-- Being counted is never lost, so it can be carried through sessions as an agreement of a
reporter with itself. -/
theorem Overheard.agreement_isCounted :
    Agreement fun (o p : Overheard ρ) => o = p ∧ o.IsCounted where
  handle h call := ⟨congrArg (Reporter.handle · call) h.1, h.2.handle call⟩
  errorCount h := congrArg Reporter.errorCount h.1

omit [LawfulReporter ρ] in
theorem foldl_errorsAfter {calls : List Call} (h : ∀ call ∈ calls, call.IsScanning) (n : Nat) :
    calls.foldl Call.errorsAfter n = n + (emissions calls).length := by
  induction calls generalizing n with
  | nil => rfl
  | cons call calls ih =>
    rw [List.foldl_cons, ih fun call' h' => h call' (List.mem_cons_of_mem call h')]
    cases call with
    | emit d =>
      have hemit : emissions (.emit d :: calls) = d :: emissions calls := rfl
      rw [hemit, List.length_cons, Call.errorsAfter]
      omega
    | note event => rfl
    | begin _ | reset => exact absurd (h _ List.mem_cons_self) id

theorem errorCount_scanInto (r : ρ) (source : Text) :
    Reporter.errorCount (scanInto source r) =
      Reporter.errorCount r + (emissions (scanCalls source)).length := by
  rw [scanInto, Reporter.errorCount_handleAll,
    foldl_errorsAfter fun _ => isScanning_of_mem_scanCalls]

/-- A run that succeeds says whether there was an error before it, or one in its source. -/
theorem hadError_of_run {r : ρ} {source : Text} {output : Channel} {outcome : Outcome}
    (h : (run source r output).result = .ok outcome) :
    outcome.hadError ↔ 0 < Reporter.errorCount r ∨ emissions (scanCalls source) ≠ [] := by
  unfold run at h
  dsimp only at h
  split at h
  · cases h
  · cases h
    rw [Reporter.hadError, errorCount_scanInto, LawfulReporter.errorCount_handle,
      decide_eq_true_iff, Call.errorsAfter, ← List.length_pos_iff]
    omega

end

/-- A session does the same whichever reporter it uses. The reporter counts the diagnostics that it
has been handed since the last reset, and a run that succeeds says whether there is any. -/
theorem session_indifferent (a b : ReporterChoice) (steps : List Step) :
    observations a.fresh steps = observations b.fresh steps ∧
    (session (Overheard.of a.fresh) steps).map (fun (answer, o) => (answer, o.reporter)) =
      session a.fresh steps ∧
    (∀ p ∈ session (Overheard.of a.fresh) steps,
      Reporter.errorCount p.2.reporter = (sinceReset p.2.entries).length) ∧
    ∀ (r : AnyReporter) (source : Text) (output : Channel) (outcome : Outcome),
      (run source r output).result = .ok outcome →
        (outcome.hadError ↔ 0 < Reporter.errorCount r ∨ emissions (scanCalls source) ≠ []) := by
  refine ⟨?_, ?_, ?_, fun r source output outcome => hadError_of_run⟩
  · refine agreement_of_lawful.observations ?_ steps
    rw [a.errorCount_fresh, b.errorCount_fresh]
  · have hsessions := Overheard.agreement.session
      (rfl : (Overheard.of a.fresh).reporter = a.fresh) steps
    rw [← List.forall₂_eq_eq_eq, List.forall₂_map_left_iff]
    exact hsessions.imp fun p q hpq => Prod.ext hpq.1 hpq.2
  · have hcounted : (Overheard.of a.fresh).IsCounted := a.errorCount_fresh
    have hsessions := Overheard.agreement_isCounted.session ⟨rfl, hcounted⟩ steps
    intro p hp
    exact (List.forall₂_same.mp hsessions p hp).2.2

end LoxFrontEnd
