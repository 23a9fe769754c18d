import LoxFrontEnd.Reporter

/-!
# Collected diagnostics

A reporter that keeps diagnostics until it is reset, and one that keeps a record of all it was
told.
-/
namespace LoxFrontEnd

/-- The diagnostics since the last reset. -/
structure Collection where
  diagnostics : List Diagnostic
  deriving Repr

namespace Collection

def empty : Collection := ⟨[]⟩

def handle (c : Collection) : Call → Collection
  | .emit d => ⟨c.diagnostics ++ [d]⟩
  | .reset => empty
  | .begin _ | .note _ => c

instance : Reporter Collection := ⟨handle, fun c => c.diagnostics.length⟩

instance : LawfulReporter Collection where
  errorCount_handle c call := by
    cases call with
    | emit d => exact List.length_append
    | begin _ | reset | note _ => rfl

end Collection

/-- What a recorder has been told. A beginning is kept with whether there was an error before
it. -/
inductive Entry
  | begin (source : Text) (hadError : Bool)
  | emit (diagnostic : Diagnostic)
  | reset
  deriving DecidableEq, Repr

/-- Everything told so far about sources and diagnostics, beside a collection. -/
structure Recorder where
  entries : List Entry
  collection : Collection
  deriving Repr

namespace Recorder

def empty : Recorder := ⟨[], .empty⟩

def handle (r : Recorder) (call : Call) : Recorder :=
  let entry : List Entry := match call with
    | .begin source => [.begin source (Reporter.hadError r.collection)]
    | .emit d => [.emit d]
    | .reset => [.reset]
    | .note _ => []
  ⟨r.entries ++ entry, r.collection.handle call⟩

instance : Reporter Recorder := ⟨handle, fun r => r.collection.diagnostics.length⟩

instance : LawfulReporter Recorder where
  errorCount_handle r call := LawfulReporter.errorCount_handle r.collection call

end Recorder

end LoxFrontEnd
