import LoxFrontEnd.Run
import LoxFrontEnd.Reporter.Collection

/-!
# Emission

Of what a reporter is told while a source is scanned, only the diagnostics count; the rest is for
the log. They are the diagnostics of the source in its order, and a collection keeps them.
-/
namespace LoxFrontEnd

/-- The diagnostic that a call hands over. -/
def Call.emitted? : Call → Option Diagnostic
  | emit d => some d
  | begin _ | reset | note _ => none

/-- The diagnostics handed over by calls. -/
def emissions (calls : List Call) : List Diagnostic := calls.filterMap Call.emitted?

/-- A call made while scanning: it hands over a diagnostic, or it is for the log. -/
def Call.IsScanning : Call → Prop
  | emit _ | note _ => True
  | begin _ | reset => False

namespace Element

/-- A lexeme is told to a reporter as a token or as a diagnostic, never as both. -/
theorem call?_eq (e : Element) :
    e.call? = match e.lexeme.role with
      | .token kind literal => some (.note (.tokenScanned ⟨kind, e.lexeme.text, literal, e.line⟩))
      | .fault fault => some (.emit ⟨e.line, [], fault.message, some e.span⟩)
      | .blank | .comment => none := by
  cases h : e.lexeme.role <;> simp [call?, token?, diagnostic?, h]

theorem emitted?_call? (e : Element) : e.call?.bind Call.emitted? = e.diagnostic? := by
  rw [call?_eq]
  cases h : e.lexeme.role <;> simp [diagnostic?, h, Call.emitted?]

end Element

theorem emissions_scanCalls (source : Text) :
    emissions (scanCalls source) = diagnostics source := by
  have hnote (event : Log.Event) : (Call.note event).emitted? = none := rfl
  simp [emissions, scanCalls, diagnostics, List.filterMap_filterMap, Element.emitted?_call?, hnote]

theorem isScanning_of_mem_scanCalls {source : Text} {call : Call} (h : call ∈ scanCalls source) :
    call.IsScanning := by
  obtain h | h := List.mem_append.mp h
  · obtain ⟨e, -, he⟩ := List.mem_filterMap.mp h
    rw [Element.call?_eq] at he
    cases hrole : e.lexeme.role <;> rw [hrole] at he <;> cases he <;> trivial
  · rw [List.mem_singleton.mp h]
    trivial

/-- A record that grows with each diagnostic, and not by what is for the log, takes up the
diagnostics of a scan in order. -/
theorem record_handleAll {ρ α : Type} [Reporter ρ] (record : ρ → List α) (f : Diagnostic → α)
    (hemit : ∀ r d, record (Reporter.handle r (.emit d)) = record r ++ [f d])
    (hnote : ∀ r event, record (Reporter.handle r (.note event)) = record r)
    {calls : List Call} (h : ∀ call ∈ calls, call.IsScanning) (r : ρ) :
    record (Reporter.handleAll r calls) = record r ++ (emissions calls).map f := by
  induction calls generalizing r with
  | nil => simp [emissions]
  | cons call calls ih =>
    rw [Reporter.handleAll_cons, ih fun call' h' => h call' (List.mem_cons_of_mem call h')]
    cases call with
    | emit d => rw [hemit, List.append_assoc]; rfl
    | note event => rw [hnote]; rfl
    | begin _ | reset => exact absurd (h _ List.mem_cons_self) id

theorem record_scanInto {ρ α : Type} [Reporter ρ] (record : ρ → List α) (f : Diagnostic → α)
    (hemit : ∀ r d, record (Reporter.handle r (.emit d)) = record r ++ [f d])
    (hnote : ∀ r event, record (Reporter.handle r (.note event)) = record r) (source : Text)
    (r : ρ) : record (scanInto source r) = record r ++ (diagnostics source).map f := by
  rw [scanInto, record_handleAll record f hemit hnote (fun _ => isScanning_of_mem_scanCalls) r,
    emissions_scanCalls]

/-- A collection keeps the diagnostics of a scan. -/
theorem diagnostics_scanInto (c : Collection) (source : Text) :
    (scanInto source c).diagnostics = c.diagnostics ++ diagnostics source := by
  rw [record_scanInto Collection.diagnostics id (fun _ _ => rfl) (fun _ _ => rfl), List.map_id]

end LoxFrontEnd
