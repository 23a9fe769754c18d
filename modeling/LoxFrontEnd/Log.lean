import LoxFrontEnd.Log.Filter

/-!
# The log

Which events are shown, and whether their lines are coloured.
-/
namespace LoxFrontEnd

structure Log where
  filter : Log.Filter
  color : Bool
  deriving Repr

namespace Log

/-- The log that shows nothing. -/
def off : Log := ⟨.off, true⟩

/-- The line for an event, if the log shows it. -/
def line? (log : Log) (e : Event) : Option Text :=
  if log.filter.enables e then some (e.line log.color) else none

end Log

end LoxFrontEnd
