import LoxFrontEnd.Text.Hidden
import LoxFrontEnd.Text.Basic

/-!
# Failures

Reading and writing can fail for reasons that have nothing to do with the program text. Such a
failure stops the driver and decides its exit status; faults in a program never do.
-/
namespace LoxFrontEnd

/-- Kinds of failures that need no system call. -/
inductive FailureKind
  | notFound
  | permissionDenied
  | brokenPipe
  | unexpectedEof
  | invalidData
  | invalidInput
  | other
  deriving DecidableEq, Repr

namespace FailureKind

def name : FailureKind → String
  | notFound => "NotFound"
  | permissionDenied => "PermissionDenied"
  | brokenPipe => "BrokenPipe"
  | unexpectedEof => "UnexpectedEof"
  | invalidData => "InvalidData"
  | invalidInput => "InvalidInput"
  | other => "Other"

def description : FailureKind → String
  | notFound => "entity not found"
  | permissionDenied => "permission denied"
  | brokenPipe => "broken pipe"
  | unexpectedEof => "unexpected end of file"
  | invalidData => "invalid data"
  | invalidInput => "invalid input parameter"
  | other => "other error"

end FailureKind

/-- Errors of system calls. -/
inductive SystemError
  | noSuchFile
  | notADirectory
  | isADirectory
  | noSpace
  | brokenPipe
  | nameTooLong
  deriving DecidableEq, Repr

namespace SystemError

def number : SystemError → Nat
  | noSuchFile => 2
  | notADirectory => 20
  | isADirectory => 21
  | noSpace => 28
  | brokenPipe => 32
  | nameTooLong => 36

def description : SystemError → String
  | noSuchFile => "No such file or directory"
  | notADirectory => "Not a directory"
  | isADirectory => "Is a directory"
  | noSpace => "No space left on device"
  | brokenPipe => "Broken pipe"
  | nameTooLong => "File name too long"

def kindName : SystemError → String
  | noSuchFile => "NotFound"
  | notADirectory => "NotADirectory"
  | isADirectory => "IsADirectory"
  | noSpace => "StorageFull"
  | brokenPipe => "BrokenPipe"
  | nameTooLong => "InvalidFilename"

end SystemError

/-- Why something could not be read or written. -/
inductive Failure
  | system (error : SystemError)
  | kind (kind : FailureKind)
  | described (kind : FailureKind) (description : Text)
  deriving DecidableEq, Repr

namespace Failure

def text : Failure → Text
  | system e =>
    e.description.toList ++ " (os error ".toList ++ Text.ofNat e.number ++ [')']
  | kind k => k.description.toList
  | described _ description => description

/-- Hexadecimal digits in lower case, without leading zeros. -/
def hexadecimal (n : Nat) : Text := Nat.toDigits 16 n

/-- A text between double quotes, with escapes for quotes, backslashes and hidden characters. -/
def quoted (t : Text) : Text :=
  let escaped (c : Char) : Text :=
    if c = '"' then ['\\', '"']
    else if c = '\\' then ['\\', '\\']
    else if c = '\n' then ['\\', 'n']
    else if c = '\r' then ['\\', 'r']
    else if c = '\t' then ['\\', 't']
    else if c.toNat = 0 then ['\\', '0']
    else if Text.isHidden c then ['\\', 'u', '{'] ++ hexadecimal c.toNat ++ ['}']
    else [c]
  '"' :: t.flatMap escaped ++ ['"']

/-- The form used in the log, with all that is known. -/
def details : Failure → Text
  | system e =>
    "Os \x7b code: ".toList ++ Text.ofNat e.number ++ ", kind: ".toList ++ e.kindName.toList ++
      ", message: ".toList ++ quoted e.description.toList ++ " \x7d".toList
  | kind k => "Kind(".toList ++ k.name.toList ++ [')']
  | described k description =>
    "Custom \x7b kind: ".toList ++ k.name.toList ++ ", error: ".toList ++ quoted description ++
      " \x7d".toList

end Failure

/-- What a process tells whoever started it. -/
inductive ExitStatus
  | success
  | usage
  | dataError
  | noInput
  | ioError
  deriving DecidableEq, Repr

namespace ExitStatus

def all : List ExitStatus := [success, usage, dataError, noInput, ioError]

def name : ExitStatus → String
  | success => "Success"
  | usage => "Usage"
  | dataError => "DataErr"
  | noInput => "NoInput"
  | ioError => "IoErr"

def code : ExitStatus → UInt8
  | success => 0
  | usage => 64
  | dataError => 65
  | noInput => 66
  | ioError => 74

end ExitStatus

/-- What stops the driver: a script that cannot be read, or a failure of its input or output. -/
inductive DriverError
  | unreadable (path : Text) (cause : Failure)
  | io (cause : Failure)
  deriving DecidableEq, Repr

namespace DriverError

def text : DriverError → Text
  | unreadable path cause => "cannot read '".toList ++ path ++ "': ".toList ++ cause.text
  | io cause => cause.text

def status : DriverError → ExitStatus
  | unreadable _ _ => .noInput
  | io _ => .ioError

/-- The form used in the log. -/
def details : DriverError → Text
  | unreadable path cause =>
    "ReadScript \x7b path: ".toList ++ Failure.quoted path ++ ", source: ".toList ++
      cause.details ++ " \x7d".toList
  | io cause => "Io(".toList ++ cause.details ++ [')']

end DriverError

end LoxFrontEnd
