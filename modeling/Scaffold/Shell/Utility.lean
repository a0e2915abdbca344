import Scaffold.Shell.Utility.Calculate
import Scaffold.Shell.Utility.Characters
import Scaffold.Shell.Utility.Compare
import Scaffold.Shell.Utility.Edit
import Scaffold.Shell.Utility.Entries
import Scaffold.Shell.Utility.Find
import Scaffold.Shell.Utility.Launch
import Scaffold.Shell.Utility.Lines
import Scaffold.Shell.Utility.Search

/-!
The programs of the system, by their names.
-/
namespace Scaffold.Shell.Utility

/-- The program with a name, apart from those that ask for programs. -/
def plain? (launch : Launch) (name : String) : Option (List String → Act Nat) :=
  match name with
  | "[" => some Builtin.bracket
  | "base64" => some encode
  | "basename" => some baseName
  | "cat" => some cat
  | "chmod" => some changeMode
  | "cmp" => some compareBytes
  | "comm" => some common
  | "cp" => some copy
  | "cut" => some cut
  | "diff" => some compareLines
  | "dirname" => some directoryName
  | "echo" => some echoPlainly
  | "egrep" => some (grep true false)
  | "env" => some (withEnvironment launch)
  | "expr" => some calculate
  | "false" => some fun _ => return 1
  | "fgrep" => some (grep false true)
  | "find" => some (findEntries launch)
  | "fold" => some fold
  | "grep" => some (grep false false)
  | "head" => some head
  | "id" => some showIdentity
  | "ln" => some link
  | "ls" => some list
  | "mkdir" => some makeDirectories
  | "mv" => some move
  | "nice" => some (withPatience "nice" launch)
  | "nohup" => some (withPatience "nohup" launch)
  | "nl" => some numberLines
  | "od" => some dump
  | "paste" => some paste
  | "printenv" => some showEnvironment
  | "printf" => some Builtin.printFormatted
  | "pwd" => some fun _ => Builtin.printDirectory ["-P"]
  | "readlink" => some readLink
  | "realpath" => some showTruePath
  | "rev" => some reverseLines
  | "rm" => some remove
  | "rmdir" => some removeDirectories
  | "sed" => some sed
  | "seq" => some sequence
  | "sleep" => some sleep
  | "sort" => some sort
  | "stat" => some status
  | "sync" => some fun _ => return 0
  | "tac" => some lastLinesFirst
  | "tail" => some tail
  | "tee" => some tee
  | "test" => some Builtin.test
  | "timeout" => some (withTimeLimit launch)
  | "touch" => some touch
  | "tr" => some translate
  | "true" => some fun _ => return 0
  | "uname" => some showSystem
  | "uniq" => some unique
  | "wc" => some countWords
  | "whoami" => some fun _ => showUser
  | "xargs" => some (withArguments launch)
  | "yes" => some repeatLine
  | _ => none

def shellNames : List String := ["bash", "dash", "sh"]

def isKnown (name : String) : Bool :=
  name = "which" || shellNames.contains name || (plain? (fun _ => return .ok 0) name).isSome

def find? (launch : Launch) (name : String) : Option (List String → Act Nat) :=
  if name = "which" then some (locatePrograms isKnown) else plain? launch name

end Scaffold.Shell.Utility
