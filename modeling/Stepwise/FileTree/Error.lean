import Stepwise.Text.Quoted
import Stepwise.Text.Lines

/-!
Errors of the file system: the number of the error and the paths it is about.
-/

namespace Stepwise

/-- What the file system refuses with. -/
inductive Errno
  | noEntry
  | tooBig
  | badDescriptor
  | exists
  | notDirectory
  | isDirectory
  | invalid
  | noSpace
  | busy
  | nameTooLong
  | notEmpty
  | loop
  deriving DecidableEq, Repr

namespace Errno

/-- The number of an error. -/
def number : Errno → Nat
  | noEntry => 2
  | tooBig => 7
  | badDescriptor => 9
  | busy => 16
  | .exists => 17
  | notDirectory => 20
  | isDirectory => 21
  | invalid => 22
  | noSpace => 28
  | nameTooLong => 36
  | notEmpty => 39
  | loop => 40

/-- An error in words. -/
def text : Errno → String
  | noEntry => "No such file or directory"
  | tooBig => "Argument list too long"
  | badDescriptor => "Bad file descriptor"
  | busy => "Device or resource busy"
  | .exists => "File exists"
  | notDirectory => "Not a directory"
  | isDirectory => "Is a directory"
  | invalid => "Invalid argument"
  | noSpace => "No space left on device"
  | nameTooLong => "File name too long"
  | notEmpty => "Directory not empty"
  | loop => "Too many levels of symbolic links"

/-- The errors that only mean that there is nothing at a path. -/
def meansAbsent : Errno → Bool
  | noEntry => true
  | notDirectory => true
  | loop => true
  | _ => false

end Errno

/-- An error with the paths it is about. -/
structure SystemError where
  errno : Errno
  paths : List String
  deriving DecidableEq, Repr

/-- An error in full. -/
def SystemError.message (e : SystemError) : String :=
  "[Errno " ++ toString e.errno.number ++ "] " ++ e.errno.text ++
    (if e.paths.isEmpty then "" else ": " ++ Text.joinText " -> " (e.paths.map Text.quoted))

end Stepwise
