/-!
What the system says when an operation on files fails, with its numbers.
-/
namespace Scaffold

inductive SystemFault where
  | notFound
  | permissionDenied
  | busy
  | exists
  | notADirectory
  | isADirectory
  | invalidArgument
  | nameTooLong
  | notEmpty
  | tooManyLinks
  | notText
  | notAFile
  | nulInPath
  | nulInCommand
  | notATerminal
  deriving DecidableEq, Repr

namespace SystemFault

def text : SystemFault → String
  | notFound => "No such file or directory"
  | permissionDenied => "Permission denied"
  | busy => "Device or resource busy"
  | .exists => "File exists"
  | notADirectory => "Not a directory"
  | isADirectory => "Is a directory"
  | invalidArgument => "Invalid argument"
  | nameTooLong => "File name too long"
  | notEmpty => "Directory not empty"
  | tooManyLinks => "Too many levels of symbolic links"
  | notText => "stream did not contain valid UTF-8"
  | notAFile => "the source path is neither a regular file nor a symlink to a regular file"
  | nulInPath => "file name contained an unexpected NUL byte"
  | nulInCommand => "nul byte found in provided data"
  | notATerminal => "not a terminal"

def number? : SystemFault → Option Nat
  | notFound => some 2
  | permissionDenied => some 13
  | busy => some 16
  | .exists => some 17
  | notADirectory => some 20
  | isADirectory => some 21
  | invalidArgument => some 22
  | nameTooLong => some 36
  | notEmpty => some 39
  | tooManyLinks => some 40
  | _ => none

def message (f : SystemFault) : String :=
  match f.number? with
  | some n => s!"{f.text} (os error {n})"
  | none => f.text

end SystemFault

end Scaffold
