import Scaffold.Shell.Builtin.Options
import Scaffold.Shell.Reader

/-!
What the name of a command means: a function, a command of the shell itself, or a program in one of
the directories in which programs are looked for.
-/
namespace Scaffold.Shell.Lookup

open Act

def plainNames : List String :=
  ["[", "alias", "bg", "cd", "chdir", "command", "echo", "false", "fg", "getopts", "hash", "jobs",
    "kill", "printf", "pwd", "read", "test", "true", "type", "ulimit", "umask", "unalias", "wait"]

def isSpecial (name : String) : Bool := Reading.specialNames.contains name
def isOwn (name : String) : Bool := isSpecial name || plainNames.contains name

def takesAssignments (name : String) : Bool :=
  ["alias", "export", "local", "readonly"].contains name

/-! Programs. -/

inductive Program where
  | system (name : String)
  | script (place : Location)
  | forbidden
  | missing
  deriving DecidableEq

def systemDirectories : List String := ["/usr/bin", "/bin"]

def standardPath : String := "/usr/local/sbin:/usr/local/bin:/usr/sbin:/usr/bin:/sbin:/bin"

def systemName? (isProgram : String → Bool) (path : String) : Option String :=
  systemDirectories.findSome? fun directory =>
    let front := directory ++ "/"
    if path.startsWith front then
      let name := String.ofList (path.toList.drop front.length)
      if isProgram name then some name else none
    else none

/-- What is at a path; `isProgram` knows the programs of the system. A directory only counts when it
is named itself. -/
def programAt (isProgram : String → Bool) (isSought : Bool) (path : String) : Act Program := do
  match systemName? isProgram path with
  | some name => return .system name
  | none =>
    let m ← get
    match Files.locate m.commons.files m.own.directory (systemPath path) with
    | .error _ => return .missing
    | .ok place =>
      match m.commons.files.find? place with
      | some (.file _ true) => return .script place
      | some .directory => return if isSought then .missing else .forbidden
      | _ => return .forbidden

/-- The paths that a name may mean, in the order in which they are tried. -/
def candidates (name : String) : Act (List String) := do
  if name.toList.contains '/' then return [name]
  let list ← valueOr "PATH" ""
  return (list.toList.splitOn ':').map fun front =>
    if front.isEmpty then name else String.ofList front ++ "/" ++ name

def program (isProgram : String → Bool) (name : String) : Act (Program × String) := do
  if name.isEmpty then return (.missing, name)
  let isSought := !name.toList.contains '/'
  let found ← (← candidates name).mapM fun path => do
    return (← programAt isProgram isSought path, path)
  let isFile (p : Program × String) : Bool := p.1 matches .system _ | .script _
  return (found.find? isFile).getD <| (found.find? (·.1 = .forbidden)).getD (.missing, name)

/-! Questions about names. -/

def describe (isProgram : String → Bool) (isShort : Bool) (name : String) : Act Bool := do
  let p ← own
  let say (long short : String) : Act Bool := do
    writeLine (if isShort then short else s!"{name} {long}")
    return true
  if Token.keywords.contains name then say "is a shell keyword" name
  else
    match p.aliases.lookup name with
    | some text => say s!"is an alias for {text}" s!"alias {name}={Act.quoted text}"
    | none =>
      if p.functions.contains name then say "is a shell function" name
      else if isSpecial name then say "is a special shell builtin" name
      else if isOwn name then say "is a shell builtin" name
      else
        match ← program isProgram name with
        | (.system _, path) | (.script _, path) => say s!"is {path}" path
        | _ => do
          if !isShort then writeLine s!"{name}: not found"
          return false

end Scaffold.Shell.Lookup
