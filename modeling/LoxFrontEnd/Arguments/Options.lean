import LoxFrontEnd.Reporter.Console

/-!
# Options

What the command line asks for: scripts, how diagnostics look, and when they are coloured.
-/
namespace LoxFrontEnd

/-- How diagnostics are shown. -/
inductive Format
  | plain
  | pretty
  deriving DecidableEq, Repr

/-- When snippets are coloured; `auto` asks whether a terminal shows them. -/
inductive ColorChoice
  | auto
  | always
  | never
  deriving DecidableEq, Repr

namespace Format

def all : List Format := [plain, pretty]

def name : Format → Text
  | plain => "plain".toList
  | pretty => "pretty".toList

def ofName? (t : Text) : Option Format := all.find? (·.name = t)

end Format

namespace ColorChoice

def all : List ColorChoice := [auto, always, never]

def name : ColorChoice → Text
  | auto => "auto".toList
  | always => "always".toList
  | never => "never".toList

def ofName? (t : Text) : Option ColorChoice := all.find? (·.name = t)

end ColorChoice

/-- The options of a command line. -/
structure Options where
  scripts : List Text
  format : Format
  color : ColorChoice
  deriving DecidableEq, Repr

/-- What the options ask to be done. -/
inductive Invocation
  | prompt
  | script (path : Text)
  | usage
  deriving DecidableEq, Repr

namespace Options

/-- One script is run, none starts the prompt, and more are a mistake. -/
def invocation (o : Options) : Invocation :=
  match o.scripts with
  | [] => .prompt
  | [path] => .script path
  | _ => .usage

theorem invocation_eq_prompt_iff (o : Options) : o.invocation = .prompt ↔ o.scripts = [] := by
  unfold invocation
  split <;> simp_all

theorem invocation_eq_script_iff (o : Options) (path : Text) :
    o.invocation = .script path ↔ o.scripts = [path] := by
  unfold invocation
  split <;> simp_all

theorem invocation_eq_usage_iff (o : Options) : o.invocation = .usage ↔ 2 ≤ o.scripts.length := by
  unfold invocation
  split
  · simp_all
  · simp_all
  · rename_i hnone hone
    refine iff_of_true rfl ?_
    have hne : o.scripts.length ≠ 0 := fun h => hnone (List.eq_nil_of_length_eq_zero h)
    have hne' : o.scripts.length ≠ 1 := fun h =>
      let ⟨path, hpath⟩ := List.length_eq_one_iff.mp h
      hone path hpath
    omega

/-- Whether snippets are coloured, where this does not hang on a terminal. -/
def colored? (o : Options) : Option Bool :=
  match o.color with
  | .always => some true
  | .never => some false
  | .auto => none

/-- The style of diagnostics, if it is settled without looking for a terminal. -/
def settledStyle? (o : Options) : Option Style :=
  match o.format with
  | .plain => some .plain
  | .pretty => o.colored?.map .pretty

/-- The style of diagnostics that a terminal shows, or does not. -/
def style (o : Options) (terminal : Bool) : Style := o.settledStyle?.getD (.pretty terminal)

end Options

end LoxFrontEnd
