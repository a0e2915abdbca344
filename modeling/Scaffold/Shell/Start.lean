import Scaffold.Shell.Builtin.Directory
import Scaffold.Shell.Builtin.Variables
import Scaffold.Shell.Lookup

/-!
How a shell is started: what it begins with, and what its arguments ask it to run.
-/
namespace Scaffold.Shell

inductive Task where
  | text (script : String)
  | input
  | file (path : String)

namespace Start

def bindings (parent : Nat) (environment : List (String × String)) (path : String) :
    Std.ExtTreeMap String Variable :=
  let own (value : String) : Variable := ⟨some value, false, false⟩
  let standard : Std.ExtTreeMap String Variable :=
    .ofList [("PATH", own Lookup.standardPath), ("PS1", own "# "), ("PS2", own "> "),
      ("PS4", own "+ "), ("PPID", own (toString parent))]
  let given := environment.foldl (fun vs (name, value) =>
    if Token.isName name.toList then vs.insert name ⟨some value, true, false⟩ else vs) standard
  ((given.insert "IFS" (own Field.defaultSeparators)).insert Act.optionName (own "1")).insert "PWD"
    ⟨some path, true, false⟩

/-- The path of a directory: the one that a variable tells, if it leads there. -/
def directoryPath (t : FileTree) (directory : Location) (told : Option String) : String :=
  let isThere (path : String) : Bool :=
    path.startsWith "/" &&
      (Files.locate t directory (ByteText.text path)).toOption = some directory
  match told with
  | some path => if isThere path then path else Builtin.placePath directory
  | none => Builtin.placePath directory

def process (number parent : Nat) (name : String) (environment : List (String × String)) (t : FileTree)
    (directory : Location) (streams : List (Nat × Channel)) : Process :=
  let path := directoryPath t directory (environment.lookup "PWD")
  { number := number, name := name, arguments := [], bindings := bindings parent environment path
    hidden := [], functions := ∅, aliases := [], documents := [], nextDocument := 0, settings := []
    directory := directory, path := path, streams := streams, traps := [], pending := []
    status := 0, innerStatus := none, loops := 0, calls := 0, line := 0, command := none
    isSubshell := false, interruptedStatus := none, jobs := [], mask := 18, optionIndex := 1
    optionOffset := 0 }

/-- A shell that another one starts: signals that are ignored stay so. -/
def child (number : Nat) (name : String) : Act Process := do
  let m ← get
  let parent := m.own
  let p := process number parent.number name (← Act.environment) m.commons.files parent.directory parent.streams
  return { p with traps := parent.traps.filter (·.2.isEmpty), mask := parent.mask }

/-! Arguments. -/

def takeOptions : List String → Nat → Act (Bool × List String)
  | [], _ => return (false, [])
  | args, 0 => return (false, args)
  | arg :: args, fuel + 1 => do
    match arg.toList with
    | ['-'] | ['-', '-'] => return (false, args)
    | sign :: s =>
      if sign ≠ '-' && sign ≠ '+' then return (false, arg :: args)
      let (isCommand, args) ← letters (sign = '-') s args
      let (isLaterCommand, args) ← takeOptions args fuel
      return (isCommand || isLaterCommand, args)
    | [] => return (false, arg :: args)
where
  letters (isOn : Bool) : List Char → List String → Act (Bool × List String)
    | [], args => return (false, args)
    | 'c' :: s, args => do
      let (_, args) ← letters isOn s args
      return (true, args)
    | 'l' :: s, args => letters isOn s args
    | 'o' :: s, args => do
      match args with
      | [] => do
        Builtin.showSettings isOn
        letters isOn s []
      | name :: args => do
        Builtin.changeNamed name isOn
        letters isOn s args
    | c :: s, args => do
      Builtin.change c isOn
      letters isOn s args

def setArguments (args : List String) : Act Unit :=
  Act.modifyOwn fun p => { p with arguments := args }

/-- What arguments ask a shell to run; they may give it a name and arguments of its own. -/
def task (args : List String) : Act Task := do
  let (isCommand, args) ← takeOptions args args.length
  if isCommand then
    let text :: args := args | Act.fail "-c requires an argument"
    Act.modifyOwn fun p => { p with name := args.headD p.name, arguments := args.drop 1 }
    return .text text
  else
    match args with
    | path :: rest =>
      if ← Act.isSet 's' then
        setArguments args
        return .input
      else
        setArguments rest
        return .file path
    | [] => return .input

end Start

end Scaffold.Shell
