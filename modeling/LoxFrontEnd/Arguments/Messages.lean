import LoxFrontEnd.Arguments.Reading

/-!
# Messages about arguments

The texts that answer a command line which gives no options: what is wrong, how it may have been
meant, how the program is used; or the help and the version that were asked for.
-/
namespace LoxFrontEnd

/-- The last name of a path, which `.` and `..` are not. -/
def lastName? (path : Text) : Option Text :=
  match ((Text.cutAt '/' path).filter fun name => name ≠ [] ∧ name ≠ ['.']).getLast? with
  | some ['.', '.'] => none
  | name => name

/-- The name of the program in messages. -/
def programName (arguments : List Text) : Text :=
  (arguments.head?.bind lastName?).getD "lox".toList

/-- How the parts of a message are set off from the text around them. -/
inductive Emphasis
  | heading
  | fault
  | literal
  | wrong
  | right
  deriving DecidableEq, Repr

/-- The parameters of the escape sequences for a style. -/
def Emphasis.parameters : Emphasis → List Text
  | heading => [['1'], ['4']]
  | fault => [['1'], "31".toList]
  | literal => [['1']]
  | wrong => ["33".toList]
  | right => ["32".toList]

/-- A part of a message in its style. -/
def Emphasis.mark (e : Emphasis) (t : Text) : Text := Text.styled e.parameters t

/-- The long name of a parameter behind its dashes. -/
def Parameter.dashed (p : Parameter) : Text := "--".toList ++ p.name

/-- What stands for the value of a parameter. -/
def Parameter.placeholder : Parameter → Text
  | .setting .format => " <FORMAT>".toList
  | .setting .color => " <COLOR>".toList
  | .flag _ => []
  | .script => "[script]...".toList

/-- How a parameter is written. -/
def Parameter.form : Parameter → Text
  | .script => Parameter.script.placeholder
  | p => p.dashed ++ p.placeholder

/-- How an option is written, with its name set off. -/
def Parameter.markedForm (p : Parameter) : Text := Emphasis.literal.mark p.dashed ++ p.placeholder

/-- How the program is used, with `arguments` behind its name. -/
def usageLine (program arguments : Text) : Text :=
  Emphasis.heading.mark "Usage:".toList ++ ' ' :: Emphasis.literal.mark program ++ ' ' :: arguments

/-- Any options, and any number of scripts. -/
def anyArguments : Text := "[OPTIONS] [script]...".toList

/-- The options given, and scripts, which are needed if some were given. Without anything given
these are any arguments. -/
def argumentsLike (given : List Parameter) : Text :=
  if given = [] then anyArguments
  else
    (given.filter (· ≠ .script)).flatMap (fun p => p.markedForm ++ [' ']) ++
      if .script ∈ given then "<script>...".toList else Parameter.script.placeholder

/-- A flag and scripts, or whatever can stand beside the flag if something was given before it. -/
def argumentsBeside (f : Flag) (first : Bool) : Text :=
  (Parameter.flag f).markedForm ++ ' ' ::
    if first then Parameter.script.placeholder
    else "<script|".toList ++ (Parameter.setting .format).form ++ '|' ::
      (Parameter.setting .color).form ++ ['>']

/-- The help text. The value of the environment is shown below the option it stands for. -/
def helpText (program : Text) (environment : Option Text) : Text :=
  let indent : Text := List.replicate 25 ' '
  let value := (environment.getD []).flatMap fun c => if c = '\n' then '\n' :: indent else [c]
  let choices (s : Setting) : Text :=
    "[possible values: ".toList ++ [',', ' '].intercalate s.values ++ [']', '\n']
  let literal (t : String) : Text := Emphasis.literal.mark t.toList
  "Scan a Lox script, or start an interactive prompt\n\n".toList ++
    usageLine program anyArguments ++ "\n\n".toList ++
    Emphasis.heading.mark "Arguments:".toList ++
    "\n  [script]...  The script file to execute; omit it for the interactive prompt\n\n".toList ++
    Emphasis.heading.mark "Options:".toList ++
    "\n      ".toList ++ (Parameter.setting .format).markedForm ++
    "  How source errors are shown [env: LOX_DIAGNOSTICS=".toList ++ value ++
    "] [default: plain] ".toList ++ choices .format ++
    "      ".toList ++ (Parameter.setting .color).markedForm ++
    "    When to colour pretty diagnostics [default: auto] ".toList ++ choices .color ++
    "  ".toList ++ literal "-h" ++ ", ".toList ++ literal "--help" ++
    "             Print help\n  ".toList ++ literal "-V" ++ ", ".toList ++ literal "--version" ++
    "          Print version\n".toList

namespace ArgumentError

/-- The kind of an error, as the log names it. -/
def kindName : ArgumentError → String
  | unknownOption _ _ _ | unknownLetter _ => "UnknownArgument"
  | missingValue _ | invalidValue _ _ => "InvalidValue"
  | repeated _ => "ArgumentConflict"
  | unneededValue _ _ _ => "TooManyValues"
  | requested .help => "DisplayHelp"
  | requested .version => "DisplayVersion"

/-- Whether an answer was asked for, so that nothing is wrong. -/
def isAnswer : ArgumentError → Bool
  | requested _ => true
  | _ => false

/-- The lines of a message, with an empty line between its parts and the hint at the end. -/
def message (parts : List Text) : Text :=
  let hint := "For more information, try '".toList ++ Emphasis.literal.mark "--help".toList ++
    "'.".toList
  Emphasis.fault.mark "error:".toList ++ ' ' ::
    ['\n', '\n'].intercalate (parts ++ [hint]) ++ ['\n']

/-- A piece of advice. -/
def tip (advice : Text) : Text :=
  "  ".toList ++ Emphasis.right.mark "tip:".toList ++ ' ' :: advice

/-- Points to an argument or a value that looks like the one given. -/
def similarTip (noun : String) (similar : Text) : Text :=
  tip ("a similar ".toList ++ noun.toList ++ " exists: '".toList ++ Emphasis.right.mark similar ++
    ['\x27'])

/-- What to write to have an unknown argument taken as a script. -/
def escapeTip (argument : Text) : Text :=
  tip ("to pass '".toList ++ Emphasis.wrong.mark argument ++ "' as a value, use '".toList ++
    Emphasis.right.mark ("-- ".toList ++ argument) ++ ['\x27'])

def unexpected (argument : Text) : Text :=
  "unexpected argument '".toList ++ Emphasis.wrong.mark argument ++ "' found".toList

/-- The values of a setting, on a line of their own. -/
def possibleValues (s : Setting) : Text :=
  "\n  [possible values: ".toList ++
    [',', ' '].intercalate (s.values.map Emphasis.right.mark) ++ [']']

/-- The answer to a command line, in its styles. -/
def styledText (program : Text) (environment : Option Text) : ArgumentError → Text
  | unknownOption name similar given =>
    let argument := "--".toList ++ name
    match similar with
    | some p =>
      let given := if p ∈ given then given else given ++ [p]
      message [unexpected argument, similarTip "argument" p.dashed,
        usageLine program (argumentsLike given)]
    | none =>
      message [unexpected argument, escapeTip argument, usageLine program (argumentsLike given)]
  | unknownLetter letter =>
    message [unexpected ['-', letter], escapeTip ['-', letter], usageLine program anyArguments]
  | missingValue p =>
    let values : Text := match p with
      | .setting s => possibleValues s
      | _ => []
    message ["a value is required for '".toList ++ Emphasis.wrong.mark p.form ++
      "' but none was supplied".toList ++ values]
  | invalidValue s value =>
    let fault := "invalid value '".toList ++ Emphasis.wrong.mark value ++ "' for '".toList ++
      Emphasis.literal.mark (Parameter.setting s).form ++ ['\x27'] ++ possibleValues s
    match Similarity.closest? value id s.values with
    | some similar => message [fault, similarTip "value" similar]
    | none => message [fault]
  | repeated s =>
    message ["the argument '".toList ++ Emphasis.wrong.mark (Parameter.setting s).form ++
      "' cannot be used multiple times".toList, usageLine program anyArguments]
  | unneededValue f value first =>
    message ["unexpected value '".toList ++ Emphasis.wrong.mark value ++ "' for '".toList ++
      Emphasis.literal.mark (Parameter.flag f).form ++
      "' found; no more were expected".toList, usageLine program (argumentsBeside f first)]
  | requested .help => helpText program environment
  | requested .version => "lox 0.1.0\n".toList

/-- The answer to a command line as it is read where styles are not shown. Escape sequences that
the arguments bring along are lost with those of the styles. -/
def text (program : Text) (environment : Option Text) (e : ArgumentError) : Text :=
  Text.plain (e.styledText program environment)

end ArgumentError

end LoxFrontEnd
