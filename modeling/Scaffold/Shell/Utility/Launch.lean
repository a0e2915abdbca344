import Scaffold.Shell.Builtin.Directory
import Scaffold.Shell.Builtin.Print
import Scaffold.Shell.Builtin.Test
import Scaffold.Shell.Binding
import Scaffold.Shell.Lookup
import Scaffold.Shell.Utility.Basic

/-!
Programs that run other programs, and those on the surroundings of a program: its variables, its
directory and the time.
-/
namespace Scaffold.Shell.Utility

open Act

/-- How a program is run by its name and arguments, which gives its status if there is the program. -/
abbrev Launch := List String → Act (Except SystemFault Nat)

def launchFor (launch : Launch) (complaint : String → String) (words : List String) : Act Nat := do
  match ← launch words with
  | .ok n => return n
  | .error f => do
    complain (complaint (words.headD "") ++ ": " ++ f.text)
    return if f = .notFound || f = .notADirectory then 127 else 126

def commandComplaint (program name : String) : String :=
  s!"{program}: failed to run command {quoted name}"

/-! Variables. -/

def showEnvironment (names : List String) : Act Nat := do
  let all ← environment
  if names.isEmpty then
    writeLines (all.map fun (name, value) => name ++ "=" ++ value)
    return 0
  let found := names.filterMap fun name => all.lookup name
  writeLines found
  return if found.length = names.length then 0 else 1

def withEnvironment (launch : Launch) (args : List String) : Act Nat :=
  let known := [⟨'i', "ignore-environment", false⟩, ⟨'u', "unset", true⟩, ⟨'C', "chdir", true⟩]
  withLeadingOptions "env" known 125 args fun r => withLocals do
    let isSetting (arg : String) : Bool := arg.toList.contains '='
    let settings := r.operands.takeWhile isSetting
    let command := r.operands.drop settings.length
    if r.has 'i' then
      (← environment).forM fun (name, _) => do
        hide name
        modifyOwn fun p => { p with bindings := p.bindings.erase name }
    (r.values 'u').forM fun name => do
      hide name
      modifyOwn fun p => { p with bindings := p.bindings.erase name }
    settings.forM fun setting => do
      let s := setting.toList
      let name := String.ofList (s.takeWhile (· ≠ '='))
      hide name
      putVariable name ⟨some (String.ofList (s.drop (name.length + 1))), true, false⟩
    if command.isEmpty then showEnvironment []
    else launchFor launch (fun name => s!"env: {quoted name}") command

def locatePrograms (isKnown : String → Bool) (names : List String) : Act Nat := do
  let found ← names.mapM fun name => do
    match ← Lookup.program isKnown name with
    | (.system _, path) | (.script _, path) => do
      writeLine path
      return true
    | _ => return false
  return if found.all id then 0 else 1

/-! Arguments from the input. -/

def quotedWords (quote : Option Char) (word : Option (List Char)) :
    List Char → List String
  | [] => (word.map fun w => String.ofList w.reverse).toList
  | c :: s =>
    let more (c : Char) := some (c :: word.getD [])
    match quote with
    | some q => if c = q then quotedWords none (some (word.getD [])) s else quotedWords quote (more c) s
    | none =>
      if c = '\'' || c = '"' then quotedWords (some c) (some (word.getD [])) s
      else if c = '\\' then
        match s with
        | d :: s => quotedWords none (more d) s
        | [] => quotedWords none word []
      else if c = ' ' || c = '\t' || c = '\n' then
        match word with
        | some w => String.ofList w.reverse :: quotedWords none none s
        | none => quotedWords none none s
      else quotedWords none (more c) s

def groups (size : Nat) (words : List String) : List (List String) :=
  match size, words with
  | 0, _ => []
  | _, [] => []
  | size + 1, w :: ws => (w :: ws.take size) :: groups (size + 1) (ws.drop size)
termination_by words.length
decreasing_by simp only [List.length_drop, List.length_cons]; omega

def withArguments (launch : Launch) (args : List String) : Act Nat :=
  let known := [⟨'n', "max-args", true⟩, ⟨'I', "", true⟩, ⟨'0', "null", false⟩,
    ⟨'r', "no-run-if-empty", false⟩, ⟨'d', "delimiter", true⟩, ⟨'L', "max-lines", true⟩,
    ⟨'t', "verbose", false⟩, ⟨'P', "max-procs", true⟩]
  withLeadingOptions "xargs" known 1 args fun r => do
    let text := ByteText.ofBytes (← readInput)
    let cutAt (c : Char) : List String :=
      let pieces := text.toList.splitOn c
      let pieces := if pieces.getLast? = some [] then pieces.dropLast else pieces
      pieces.map String.ofList
    let words :=
      if r.has '0' then cutAt '\x00'
      else
        match r.value? 'd' with
        | some d => cutAt (if d = "\\n" then '\n' else (d.toList.head?).getD '\n')
        | none =>
          if r.has 'I' then (linesOf text).filter (!·.isEmpty)
          else quotedWords none none text.toList
    let command := if r.operands.isEmpty then ["echo"] else r.operands
    let size := (((r.value? 'n') <|> (r.value? 'L')).bind String.toNat?).getD (max 1 words.length)
    let commands := match r.value? 'I' with
      | some mark => words.map fun w => command.map fun (part : String) => part.replace mark w
      | none =>
        if words.isEmpty then (if r.has 'r' then [] else [command])
        else (groups size words).map (command ++ ·)
    let codes ← withStreams do
      setChannel 0 (some .nowhere)
      commands.mapM (launchFor launch fun name => s!"xargs: {name}")
    return codes.foldl (fun code c =>
      if c = 0 then code else if c = 126 || c = 127 then c else max code 123) 0

/-! Time. -/

/-- The seconds that a text with a unit means, rounded down. -/
def seconds? (text : String) : Option Nat :=
  let s := text.toList
  let ds := s.takeWhile Char.isDigit
  let rest := s.drop ds.length
  let fraction := if rest.head? = some '.' then (rest.drop 1).takeWhile Char.isDigit else []
  let unit := if rest.head? = some '.' then rest.drop (fraction.length + 1) else rest
  let n := (String.ofList ds).toNat?.getD 0
  if ds.isEmpty && fraction.isEmpty then none
  else
    match unit with
    | [] | ['s'] => some n
    | ['m'] => some (60 * n)
    | ['h'] => some (3600 * n)
    | ['d'] => some (86400 * n)
    | _ => none

/-- Waits; the time goes by at once. -/
def sleep (args : List String) : Act Nat := do
  if args.isEmpty then return ← misuse "sleep" "missing operand" 1
  match args.find? fun arg => (seconds? arg).isNone with
  | some arg => misuse "sleep" s!"invalid time interval {quoted arg}" 1
  | none => do
    let n := (args.filterMap seconds?).foldl (· + ·) 0
    modifyCommons fun c => { c with slept := c.slept + max 1 n, console := c.console.pause }
    return 0

def withTimeLimit (launch : Launch) (args : List String) : Act Nat :=
  withLeadingOptions "timeout" (letters "s:k:fpv") 125 args fun r =>
    match r.operands with
    | [] | [_] => misuse "timeout" "missing operand" 125
    | time :: command =>
      if (seconds? time).isNone then misuse "timeout" s!"invalid time interval {quoted time}" 125
      else launchFor launch (commandComplaint "timeout") command

/-- Runs a program that is not stopped by the end of a terminal, or less often than others. -/
def withPatience (program : String) (launch : Launch) (args : List String) : Act Nat :=
  withLeadingOptions program (letters "n:") 125 args fun r =>
    launchFor launch (commandComplaint program) r.operands

/-! Small programs. -/

def echoPlainly (args : List String) : Act Nat := do
  let isOption (arg : String) : Bool :=
    match arg.toList with
    | '-' :: c :: s => (c :: s).all fun c => "neE".contains c
    | _ => false
  let flags := args.takeWhile isOption
  let letters := flags.flatMap (·.toList)
  let text := String.intercalate " " (args.drop flags.length)
  let escapes := (letters.filter fun c => c = 'e' || c = 'E').getLast? = some 'e'
  let (shown, stops) := if escapes then Escape.unescaped text.toList else (text.toList, false)
  writeText (String.ofList (if stops || letters.contains 'n' then shown else shown ++ ['\n']))
  return 0

/-- How often a line is repeated that would be repeated without an end. -/
def repetitionLimit : Nat := 50000

def repeatLine (args : List String) : Act Nat := do
  let line := if args.isEmpty then "y" else String.intercalate " " args
  writeText (String.join (List.replicate repetitionLimit (line ++ "\n")))
  return 0

def showSystem (args : List String) : Act Nat := do
  match args with
  | [] | ["-s"] => writeLine "Linux"
  | ["-m"] | ["-p"] | ["-i"] => writeLine "x86_64"
  | ["-o"] => writeLine "GNU/Linux"
  | _ => writeLine "Linux"
  return 0

def showIdentity (args : List String) : Act Nat := do
  match args with
  | ["-u"] | ["-g"] | ["-G"] => writeLine "0"
  | ["-un"] | ["-gn"] | ["-u", "-n"] => writeLine "root"
  | _ => writeLine "uid=0(root) gid=0(root) groups=0(root)"
  return 0

def showUser : Act Nat := do
  writeLine "root"
  return 0

end Scaffold.Shell.Utility
