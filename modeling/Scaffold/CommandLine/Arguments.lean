import Scaffold.Display.Render

/-!
The arguments of the command line, and what is wrong with those that are refused. Faults count in the
order in which the arguments are read; a value is looked at when the next argument that is known
follows it.
-/
namespace Scaffold.CommandLine

inductive UsageFault where
  | missingArgument
  | unknownArgument
  | conflict
  | invalidValue
  | tooManyValues
  | help
  | version
  deriving DecidableEq, Repr

inductive Flag where
  | dryRun
  | nonInteractive
  | verbose
  | quiet
  | noColour
  | debug
  deriving DecidableEq, Repr

structure Arguments where
  config : String
  directory : Option String
  flags : List Flag
  deriving DecidableEq, Repr

namespace Arguments

def has (a : Arguments) (f : Flag) : Bool := a.flags.contains f

def mode (a : Arguments) : Mode :=
  if a.has .quiet then .quiet else if a.has .verbose then .verbose else .normal

end Arguments

inductive Name where
  | flag (f : Flag)
  | directory
  | help
  | version
  deriving DecidableEq, Repr

def Name.ofWord? : String → Option Name
  | "cwd" => some directory
  | "dry-run" => some (flag .dryRun)
  | "non-interactive" => some (flag .nonInteractive)
  | "verbose" => some (flag .verbose)
  | "quiet" => some (flag .quiet)
  | "no-color" => some (flag .noColour)
  | "debug" => some (flag .debug)
  | "help" => some help
  | "version" => some version
  | _ => none

def Name.ofLetter? : Char → Option Name
  | 'v' => some (flag .verbose)
  | 'q' => some (flag .quiet)
  | 'h' => some help
  | 'V' => some version
  | _ => none

inductive Pending where
  | config (value : String)
  | directory (value : Option String)
  deriving DecidableEq, Repr

structure Reading where
  config : Option String
  directory : Option String
  flags : List Flag
  pending : Option Pending

namespace Reading

def start : Reading := ⟨none, none, [], none⟩

/-- Stores the pending value, which must not be empty. -/
def settle (r : Reading) : Except UsageFault Reading :=
  match r.pending with
  | none => return r
  | some (.config value) =>
    if value.isEmpty then throw .invalidValue
    else return { r with config := some value, pending := none }
  | some (.directory none) => throw .invalidValue
  | some (.directory (some value)) =>
    if r.directory.isSome then throw .conflict
    else if value.isEmpty then throw .invalidValue
    else return { r with directory := some value, pending := none }

def name (r : Reading) : Name → Except UsageFault Reading
  | .flag f => do
    let r ← r.settle
    if r.flags.contains f then throw .conflict
    return { r with flags := r.flags ++ [f] }
  | .directory => do
    let r ← r.settle
    return { r with pending := some (.directory none) }
  | .help => do
    let _ ← r.settle
    throw .help
  | .version => do
    let _ ← r.settle
    throw .version

def word (r : Reading) (text : List Char) : Except UsageFault Reading := do
  let key := String.ofList (text.takeWhile (· ≠ '='))
  let value := (text.dropWhile (· ≠ '=')).drop 1
  match Name.ofWord? key with
  | none => throw .unknownArgument
  | some n =>
    if !text.contains '=' then r.name n
    else if n = .directory then
      let r ← r.settle
      settle { r with pending := some (.directory (some (String.ofList value))) }
    else throw .tooManyValues

def letters (r : Reading) (text : List Char) : Except UsageFault Reading :=
  text.foldlM (fun r c =>
    match Name.ofLetter? c with
    | some n => r.name n
    | none => throw .unknownArgument) r

def positional (r : Reading) (text : String) : Except UsageFault Reading := do
  if r.config.isSome || (r.pending matches some (.config _)) then throw .unknownArgument
  let r ← r.settle
  return { r with pending := some (.config text) }

/-- An argument before the mark that ends all names. -/
def argument (r : Reading) (text : String) : Except UsageFault Reading :=
  match text.toList with
  | '-' :: '-' :: rest => r.word rest
  | '-' :: c :: rest => r.letters (c :: rest)
  | _ =>
    match r.pending with
    | some (.directory none) => return { r with pending := some (.directory (some text)) }
    | _ => r.positional text

def all (r : Reading) : List String → Except UsageFault Reading
  | [] => r.settle
  | "--" :: rest => do (← rest.foldlM positional r).settle
  | text :: rest => do all (← r.argument text) rest

/-- The directory from the environment counts when no argument gives one. -/
def finish (r : Reading) (setting : Option String) : Except UsageFault Arguments := do
  let r ←
    if r.directory.isSome then pure r
    else settle { r with pending := setting.map fun value => .directory (some value) }
  if r.flags.contains .verbose && r.flags.contains .quiet then throw .conflict
  match r.config with
  | some config => return ⟨config, r.directory, r.flags⟩
  | none => throw .missingArgument

end Reading

def Arguments.ofTexts (setting : Option String) (texts : List String) :
    Except UsageFault Arguments := do
  (← Reading.start.all texts).finish setting

end Scaffold.CommandLine
