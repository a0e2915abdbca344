import Scaffold.Shell.Builtin.Options
import Scaffold.Shell.Format

/-!
The commands of a shell that print texts: with escapes, and by a format.
-/
namespace Scaffold.Shell.Builtin

open Act

/-- Writes what a command prints; it is a misuse when its output leads nowhere. -/
def printText (command text : String) : Act Nat := do
  if ← tryWrite (ByteText.bytes text) then return 0
  warn s!"{command}: I/O error"
  return 1

def echo (args : List String) : Act Nat := do
  let isOpen := args.head? = some "-n"
  let args := if isOpen then args.drop 1 else args
  let (text, stops) := Escape.unescaped (String.intercalate " " args).toList
  printText "echo" (String.ofList (if isOpen || stops then text else text ++ ['\n']))

def complaintText : Format.Complaint → String
  | .notNumeric text => s!"{text}: expected numeric value"
  | .notWhole text => s!"{text}: not completely converted"
  | .outOfRange text => s!"{text}: Numerical result out of range"

def printFormatted (args : List String) : Act Nat := do
  let (_, args) ← options "" "" args
  match args with
  | [] => fail "usage: printf format [arg ...]"
  | format :: args => do
    let o := Format.print format args
    o.complaints.forM fun c => warn (complaintText c)
    let code ← printText "printf" o.text
    match o.halt with
    | some (.badDirective text) => fail s!"{text}: invalid directive"
    | some .missingLetter => fail "missing format character"
    | _ => return max code (if o.complaints.isEmpty then 0 else 1)

end Scaffold.Shell.Builtin
