import LoxFrontEnd.Arguments.Options
import LoxFrontEnd.Arguments.Similarity

/-!
# Reading arguments

Arguments are read from left to right by a reader that remembers what it still expects. A value is
checked once it is clear that no more belongs to it, that is when the next option or the first
script after an option comes, or at the end. An unknown argument is a fault at once, so it goes
before a bad value that is still unchecked in front of it. After `--` everything is a script.
-/
namespace LoxFrontEnd

/-- Options that take a value. -/
inductive Setting
  | format
  | color
  deriving DecidableEq, Repr

/-- Options that stand alone and end the reading. -/
inductive Flag
  | help
  | version
  deriving DecidableEq, Repr

/-- Everything that can be given on a command line. -/
inductive Parameter
  | setting (s : Setting)
  | flag (f : Flag)
  | script
  deriving DecidableEq, Repr

namespace Setting

def name : Setting → Text
  | format => "format".toList
  | color => "color".toList

/-- The values a setting can have. -/
def values : Setting → List Text
  | format => Format.all.map Format.name
  | color => ColorChoice.all.map ColorChoice.name

end Setting

namespace Flag

def name : Flag → Text
  | help => "help".toList
  | version => "version".toList

def ofLetter? (c : Char) : Option Flag :=
  if c = 'h' then some help else if c = 'V' then some version else none

end Flag

namespace Parameter

/-- The parameters that have a long name. -/
def options : List Parameter := [setting .format, setting .color, flag .help, flag .version]

/-- The long name; scripts have none. -/
def name : Parameter → Text
  | setting s => s.name
  | flag f => f.name
  | script => []

def ofName? (t : Text) : Option Parameter := options.find? (·.name = t)

end Parameter

/-- Why a command line gives no options. -/
inductive ArgumentError
  /-- A long option that is unknown, with the option it looks like and what was given before it. -/
  | unknownOption (name : Text) (similar : Option Parameter) (given : List Parameter)
  | unknownLetter (letter : Char)
  | missingValue (parameter : Parameter)
  | invalidValue (setting : Setting) (value : Text)
  | repeated (setting : Setting)
  /-- A value for a flag, which may be the first parameter given. -/
  | unneededValue (flag : Flag) (value : Text) (first : Bool)
  | requested (flag : Flag)
  deriving DecidableEq, Repr

/-- What a reader still expects. -/
inductive Pending
  | nothing
  | scripts (paths : List Text)
  | value (setting : Setting) (value : Option Text)
  deriving DecidableEq, Repr

/-- What has been read so far, with the parameters given in the order of their first use. -/
structure ArgumentReader where
  scripts : List Text
  format : Option Format
  color : Option ColorChoice
  given : List Parameter
  pending : Pending
  deriving Repr

namespace ArgumentReader

def initial : ArgumentReader := ⟨[], none, none, [], .nothing⟩

/-- Notes that a parameter has been given. -/
def give (r : ArgumentReader) (p : Parameter) : ArgumentReader :=
  if p ∈ r.given then r else { r with given := r.given ++ [p] }

/-- Sets a setting that has been given. -/
def assign (r : ArgumentReader) (s : Setting) (value : Text) :
    Except ArgumentError ArgumentReader :=
  if value = [] then .error (.missingValue (.setting s))
  else
    match s with
    | .format => match Format.ofName? value with
      | some format => .ok { r with format := some format }
      | none => .error (.invalidValue s value)
    | .color => match ColorChoice.ofName? value with
      | some color => .ok { r with color := some color }
      | none => .error (.invalidValue s value)

/-- Settles what was pending. With an error comes what was given up to it. -/
def settle (r : ArgumentReader) : Except (ArgumentError × List Parameter) ArgumentReader :=
  let cleared := { r with pending := .nothing }
  match r.pending with
  | .nothing => .ok r
  | .scripts paths =>
    let r := cleared.give .script
    if [] ∈ paths then .error (.missingValue .script, r.given)
    else .ok { r with scripts := r.scripts ++ paths }
  | .value s none => .error (.missingValue (.setting s), r.given)
  | .value s (some value) =>
    if .setting s ∈ r.given then .error (.repeated s, r.given.erase (.setting s))
    else
      let r := cleared.give (.setting s)
      (r.assign s value).mapError (·, r.given)

/-- Settles what was pending, where an error in it ends the reading. -/
def settled (r : ArgumentReader) : Except ArgumentError ArgumentReader := r.settle.mapError (·.1)

/-- What has been given once all that was pending is settled, be it in error or not. -/
def givenSoFar (r : ArgumentReader) : List Parameter :=
  match r.settle with
  | .ok r => r.given
  | .error (_, given) => given

/-- Takes a script. -/
def takeScript (r : ArgumentReader) (path : Text) : Except ArgumentError ArgumentReader :=
  match r.pending with
  | .scripts paths => .ok { r with pending := .scripts (paths ++ [path]) }
  | _ => r.settled.map fun r => { r with pending := .scripts [path] }

/-- Takes an option by its long name, with the value after an equals sign if there is one. -/
def takeOption (r : ArgumentReader) (name : Text) (value : Option Text) :
    Except ArgumentError ArgumentReader :=
  match Parameter.ofName? name, value with
  | some (.setting s), none => r.settled.map fun r => { r with pending := .value s none }
  | some (.setting s), some value => do
    let r ← r.settled
    settled { r with pending := .value s (some value) }
  | some (.flag f), none => do
    let _ ← r.settled
    .error (.requested f)
  | some (.flag f), some value => .error (.unneededValue f value r.given.isEmpty)
  | _, _ =>
    .error (.unknownOption name (Similarity.closest? name Parameter.name Parameter.options)
      r.givenSoFar)

/-- Takes options by their letters, of which the first one ends the reading. -/
def takeLetters (r : ArgumentReader) (letter : Char) : Except ArgumentError ArgumentReader :=
  match Flag.ofLetter? letter with
  | some f => do
    let _ ← r.settled
    .error (.requested f)
  | none => .error (.unknownLetter letter)

/-- Takes an argument in front of `--`. -/
def take (r : ArgumentReader) (argument : Text) : Except ArgumentError ArgumentReader :=
  match argument with
  | '-' :: '-' :: text =>
    let value := text.dropWhile (· != '=')
    r.takeOption (text.takeWhile (· != '=')) (if value = [] then none else some (value.drop 1))
  | '-' :: letter :: _ => r.takeLetters letter
  | _ =>
    match r.pending with
    | .value s none => .ok { r with pending := .value s (some argument) }
    | _ => r.takeScript argument

/-- Reads all arguments. -/
def takeAll (r : ArgumentReader) : List Text → Except ArgumentError ArgumentReader
  | [] => r.settled
  | argument :: rest =>
    if argument = ['-', '-'] then do
      let r ← rest.foldlM takeScript r
      r.settled
    else do
      let r ← r.take argument
      takeAll r rest

end ArgumentReader

/-- Reads the arguments after the program name. The format may be given by the environment, which
is looked at last and only if no argument gives it. -/
def readArguments (arguments : List Text) (environment : Option Text) :
    Except ArgumentError Options := do
  let r ← ArgumentReader.initial.takeAll arguments
  let r ← match r.format, environment with
    | none, some value => r.assign .format value
    | _, _ => .ok r
  return ⟨r.scripts, r.format.getD .plain, r.color.getD .auto⟩

end LoxFrontEnd
