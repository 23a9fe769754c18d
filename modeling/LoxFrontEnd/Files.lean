import LoxFrontEnd.Failure
import LoxFrontEnd.Text.Utf8

/-!
# Files

A working directory with files and directories in it, and how a path finds a file there. A path is
followed name by name, and the first name that cannot be followed decides the failure. Outside the
working directory there are directories, but nothing that could be found by name.
-/
namespace LoxFrontEnd

/-- The names that lead from the working directory to a place in it. -/
abbrev Location := List Text

/-- Everything below the working directory. A directory that holds anything need not be listed. -/
structure Files where
  files : List (Location × List UInt8)
  directories : List Location
  deriving Repr

namespace Files

/-- Longest name in bytes. -/
def nameLimit : Nat := 255

/-- Length in bytes that every path stays below. -/
def pathLimit : Nat := 4096

def isDirectory (fs : Files) (location : Location) : Bool :=
  location = [] || fs.directories.any (location.isPrefixOf ·) ||
    fs.files.any fun (file, _) => location.isPrefixOf file && location ≠ file

def contents? (fs : Files) (location : Location) : Option (List UInt8) :=
  (fs.files.find? (·.1 = location)).map (·.2)

/-- Follows one name. `none` is a directory outside the working directory. -/
def follow (fs : Files) (place : Option Location) (name : Text) :
    Except SystemError (Option Location) :=
  if !place.all fs.isDirectory then .error .notADirectory
  else if name = [] ∨ name = ['.'] then .ok place
  else if name = ['.', '.'] then
    .ok (place.bind fun location => if location = [] then none else some location.dropLast)
  else if nameLimit < (Utf8.encode name).length then .error .nameTooLong
  else match place with
    | none => .error .noSuchFile
    | some location =>
      let location := location ++ [name]
      if fs.isDirectory location || (fs.contents? location).isSome then .ok (some location)
      else .error .noSuchFile

/-- The place a path leads to, from the working directory or, after a slash, from outside. -/
def resolve (fs : Files) (path : Text) : Except SystemError (Option Location) :=
  if path = [] then .error .noSuchFile
  else if pathLimit ≤ (Utf8.encode path).length then .error .nameTooLong
  else (Text.cutAt '/' path).foldlM fs.follow (if path.head? = some '/' then none else some [])

/-- The bytes of the file at a path. -/
def read (fs : Files) (path : Text) : Except Failure (List UInt8) :=
  if path.any (·.toNat = 0) then
    .error (.described .invalidInput "file name contained an unexpected NUL byte".toList)
  else
    match fs.resolve path with
    | .error e => .error (.system e)
    | .ok place =>
      match place.bind fs.contents? with
      | some bytes => .ok bytes
      | none => .error (.system .isADirectory)

end Files

end LoxFrontEnd
