import LoxFrontEnd.Reporter
import LoxFrontEnd.Channel
import LoxFrontEnd.Log
import LoxFrontEnd.Snippet.Layout

/-!
# Console

The console writes diagnostics, and what is asked for of the log, to a channel. Reporting never
fails: a channel that does not take a diagnostic only loses its text, and the fault counts all the
same.
-/
namespace LoxFrontEnd

/-- How diagnostics are presented: on one line, or as a snippet of the source. -/
inductive Style
  | plain
  | pretty (color : Bool)
  deriving DecidableEq, Repr

structure Console where
  channel : Channel
  style : Style
  /-- Names the source in snippets. -/
  origin : Text
  /-- The source that snippets are taken from. -/
  source : Text
  errors : Nat
  log : Log
  deriving Repr

namespace Console

/-- A console that has not been told anything yet, without a log. -/
def new (channel : Channel) (style : Style) (origin : Text) : Console :=
  ⟨channel, style, origin, [], 0, .off⟩

/-- What is written for a diagnostic. -/
def present (style : Style) (origin source : Text) (d : Diagnostic) : Text :=
  match style with
  | .plain => d.text ++ ['\n']
  | .pretty color => d.render source origin color

/-- Writes a text, whether or not the channel takes it. A text that is refused is lost and the console
goes on, where a process may instead give up. -/
def print (c : Console) (t : Text) : Console := { c with channel := (c.channel.write t).2 }

/-- Shows an event if the log is to show it. -/
def note (c : Console) (e : Log.Event) : Console :=
  match c.log.line? e with
  | some line => c.print line
  | none => c

def emit (c : Console) (d : Diagnostic) : Console :=
  let c := c.note (.faultReported d.line d.message)
  let (failure, channel) := c.channel.writeFlushed (present c.style c.origin c.source d)
  let c := { c with channel := channel, errors := c.errors + 1 }
  match failure with
  | none => c
  | some cause => c.note (.diagnosticLost cause)

/-- A console remembers a source only to take snippets from it. -/
def begin (c : Console) (source : Text) : Console :=
  match c.style with
  | .plain => c
  | .pretty _ => { c with source := source }

def handle (c : Console) : Call → Console
  | .begin source => c.begin source
  | .emit d => c.emit d
  | .reset => { c with errors := 0 }
  | .note e => c.note e

instance : Reporter Console := ⟨handle, errors⟩

@[simp] theorem errors_note (c : Console) (e : Log.Event) : (c.note e).errors = c.errors := by
  unfold note
  split <;> rfl

@[simp] theorem errors_emit (c : Console) (d : Diagnostic) : (c.emit d).errors = c.errors + 1 := by
  unfold emit
  dsimp only
  split <;> simp

@[simp] theorem errors_begin (c : Console) (source : Text) :
    (c.begin source).errors = c.errors := by
  unfold begin
  split <;> rfl

/-- A console counts faults whether or not it can show them. -/
instance : LawfulReporter Console where
  errorCount_handle c call := by
    cases call with
    | begin source => exact errors_begin c source
    | emit d => exact errors_emit c d
    | reset => rfl
    | note e => exact errors_note c e

end Console

end LoxFrontEnd
