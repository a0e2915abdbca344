import Scaffold.Shell.Aim
import Scaffold.Shell.Builtin
import Scaffold.Shell.Callee
import Scaffold.Shell.Start
import Scaffold.Shell.Utility

/-!
Running scripts. A number bounds how deep they may go; a shell that goes deeper is killed, as it is
when it runs out of memory. A loop only ends when its rounds do, so it has a bound of its own.
-/
namespace Scaffold.Shell

inductive Ending where
  | status (n : Nat)
  | signal (n : Nat)

namespace Evaluate

open Act

/-! Ends of shells. -/

def endsIn (act : Act Unit) : Act Bool := do
  try
    act
    return false
  catch
    | .killed shell signal => throw (.killed shell signal)
    | .exit | .misuse => return true
    | _ => return false

def toEnd (source : String → Act Unit) (act : Act Unit) : Act Unit := do
  let _ ← endsIn act
  let p ← own
  if let some text := p.traps.lookup Signal.finish then
    modifyOwn fun p => { p with
      traps := p.traps.filter (·.1 ≠ Signal.finish), interruptedStatus := some p.status }
    if !(← endsIn (source text)) then setStatus p.status

/-- Carries out something in a copy of the shell, of which only the status is kept. -/
def inSubshell (source : String → Act Unit) (act : Act Unit) : Act Unit := do
  let parent ← own
  modifyOwn fun p => { p with
    isSubshell := true, traps := p.traps.filter (·.2.isEmpty), pending := [] }
  toEnd source act
  modifyOwn fun p => { parent with status := p.status }
  Builtin.takeRaised

def asProcess (p : Process) (act : Act Unit) : Act Ending := do
  let parent ← own
  modifyOwn fun _ => p
  let signal ← try
      act
      pure none
    catch
      | .killed shell signal =>
        if shell = p.number then pure (some signal) else throw (.killed shell signal)
      | _ => pure none
  let status := (← own).status
  modifyOwn fun _ => parent
  return signal.elim (.status status) .signal

def checkFailure (endsAtFailure : Bool) : Act Unit := do
  if endsAtFailure && (← own).status ≠ 0 then throw .exit

def accept : Ending → Act Unit
  | .status n => setStatus n
  | .signal n => do
    if !Signal.isQuiet n then complain (Signal.description n)
    setStatus (128 + n)

/-! Loops. -/

inductive Round (α : Type) where
  | done (a : α)
  | next
  | left

def round (act : Act α) : Act (Round α) := do
  try return .done (← act)
  catch
    | .leaveLoop levels => if levels ≤ 1 then return .left else throw (.leaveLoop (levels - 1))
    | .nextRound levels => if levels ≤ 1 then return .next else throw (.nextRound (levels - 1))
    | stop => throw stop

def inLoop (act : Act Unit) : Act Unit := do
  let loops := (← own).loops
  modifyOwn fun p => { p with loops := loops + 1 }
  try act finally modifyOwn fun p => { p with loops := loops }

/-- Repeats something as long as a test wants it; the status is that of the last round. -/
def repeated (test : Act Bool) (body : Act Unit) (status : Nat) : Nat → Act Unit
  | 0 => do throw (.killed (← own).number Signal.kill)
  | fuel + 1 => do
    match ← round test with
    | .left | .done false => setStatus status
    | .next => repeated test body status fuel
    | .done true =>
      match ← round body with
      | .left => return
      | _ => do
        let status := (← own).status
        repeated test body status fuel

def roundLimit : Nat := 200000

def eachValue (body : String → Act Unit) : List String → Act Unit
  | [] => return
  | v :: vs => do
    match ← round (body v) with
    | .left => return
    | _ => eachValue body vs

/-! Texts. -/

/-- Runs the commands of a text one after another, each as soon as it has been read. A text without
commands succeeds. -/
def eachCommand (run : Script → Act Unit) (c : Cursor) (hasRun : Bool) : Nat → Act Unit
  | 0 => return
  | fuel + 1 => do
    let p ← own
    let number := max p.nextDocument c.nextDocument
    let c := { c with aliases := p.aliases, documents := [], nextDocument := number }
    match Reading.completeCommand.run c with
    | .error e => do
      modifyOwn fun p => { p with line := e.line }
      fail e.text
    | .ok (none, _) => if !hasRun then setStatus 0
    | .ok (some s, c) => do
      modifyOwn fun p => { p with
        documents := c.documents ++ p.documents, nextDocument := c.nextDocument }
      if s matches .nothing then eachCommand run c hasRun fuel
      else
        run s
        eachCommand run c true fuel

def traceFront (run : Expansion.Runner) : Act String := do
  let text ← valueOr "PS4" ""
  match Reading.quotedText.run (Cursor.start text.toList 0 []) with
  | .ok (w, _) => Expansion.plainText run w
  | .error _ => return text

def trace (run : Expansion.Runner) (errors : Option Channel) (words : List String) : Act Unit := do
  if ← isSet 'x' then
    let line := (← traceFront run) ++ String.intercalate " " words ++ "\n"
    if let some channel := errors then
      let _ ← writeTo channel (ByteText.bytes line)

/-! Files of scripts. -/

def interpreter? (bytes : ByteArray) : Option (String × List String) :=
  match (bytes.extract 0 256).toList with
  | 35 :: 33 :: rest =>
    let isBlank (b : UInt8) : Bool := b = 32 || b = 9
    let line := (rest.takeWhile (· ≠ 10)).dropWhile isBlank
    let name := line.takeWhile (!isBlank ·)
    let argument := ((line.drop name.length).dropWhile isBlank).reverse.dropWhile isBlank |>.reverse
    if name.isEmpty then none
    else some (ByteText.ofBytes name,
      if argument.isEmpty then [] else [ByteText.ofBytes argument])
  | _ => none

def sourcePath (name : String) : Act String := do
  if name.toList.contains '/' then return name
  let m ← get
  let isFile (path : String) : Bool :=
    (Files.lookup? m.commons.files m.own.directory (systemPath path)).any (· matches .file ..)
  match (← Lookup.candidates name).find? isFile with
  | some path => return path
  | none => fail s!"{name}: not found"

def fileText (path : String) : Act String := do
  match ← openPath path .read with
  | .ok channel => return ByteText.ofBytes (← readAllFrom channel)
  | .error f => fail s!"cannot open {path}: {openingFault true f}"

/-! Running. -/

mutual

/-- Runs a script and leaves its status. A failure that is looked at does not end a shell that ends at
failures. -/
def run (isTested : Bool) (s : Script) : Nat → Act Unit
  | 0 => do throw (.killed (← own).number Signal.segmentation)
  | fuel + 1 => do
    if ← isSet 'n' then return
    let endsAtFailure := (← isSet 'e') && !isTested
    let setLine (line : Nat) : Act Unit := modifyOwn fun p => { p with line := line }
    let inner : Expansion.Runner := fun s => output s fuel
    match s with
    | .nothing => setStatus 0
    | .simple line assignments words redirections => do
      simple isTested line assignments words redirections fuel
      answerSignals fuel
      checkFailure endsAtFailure
    | .redirected line body redirections => do
      setLine line
      let aims ← redirections.mapM (Aim.ofRedirection inner)
      withStreams do
        if ← Aim.takeAll aims then run isTested body fuel else setStatus 2
    | .subshell line body redirections => do
      setLine line
      let aims ← redirections.mapM (Aim.ofRedirection inner)
      inSubshell (fun text => source false text fuel) do
        if ← Aim.takeAll aims then run isTested body fuel else Act.exit 2
      checkFailure endsAtFailure
    | .background line body => do
      setLine line
      background body fuel
    | .pipeline commands => do
      pipeline isTested none commands fuel
      checkFailure endsAtFailure
    | .negated body => do
      run true body fuel
      setStatus (if (← own).status = 0 then 1 else 0)
    | .both first second => do
      run true first fuel
      if (← own).status = 0 then run isTested second fuel
    | .either first second => do
      run true first fuel
      if (← own).status ≠ 0 then run isTested second fuel
    | .sequence first second => do
      run isTested first fuel
      run isTested second fuel
    | .conditional test yes no => do
      run true test fuel
      run isTested (if (← own).status = 0 then yes else no) fuel
    | .loop isUntil test body =>
      let isWanted : Act Bool := do
        run true test fuel
        return ((← own).status = 0) != isUntil
      inLoop (repeated isWanted (run isTested body fuel) 0 roundLimit)
    | .forEach line name words body => do
      setLine line
      let values ← words.flatMapM (Expansion.word inner)
      setStatus 0
      inLoop <| eachValue (fun value => do
        setVariable name (some value)
        run isTested body fuel) values
    | .select line word cases => do
      setLine line
      select isTested (← Expansion.text inner word) cases fuel
    | .function _ name body => do
      modifyOwn fun p => { p with functions := p.functions.insert name body }
      setStatus 0

def select (isTested : Bool) (text : String) (cases : List (List Word × Script)) : Nat → Act Unit
  | 0 => do throw (.killed (← own).number Signal.segmentation)
  | fuel + 1 => do
    match cases with
    | [] => setStatus 0
    | (patterns, body) :: rest => do
      let found ← patterns.anyM fun p => do
        return Glob.holds (← Expansion.pattern (fun s => output s fuel) p) text.toList
      if found then run isTested body fuel else select isTested text rest fuel

def pipeline (isTested : Bool) (input : Option Nat) (commands : List Script) : Nat → Act Unit
  | 0 => do throw (.killed (← own).number Signal.segmentation)
  | fuel + 1 => do
    match commands with
    | [] => return
    | c :: rest => do
      let next ← if rest.isEmpty then pure none else some <$> newPipe .empty
      withStreams do
        input.forM fun n => setChannel 0 (some (.pipe n))
        next.forM fun n => setChannel 1 (some (.pipe n))
        inSubshell (fun text => source false text fuel) (run isTested c fuel)
      input.forM fun n => do let _ ← emptyPipe n
      pipeline isTested next rest fuel

/-- Runs a script beside the shell: it is over before the shell goes on. -/
def background (body : Script) : Nat → Act Unit
  | 0 => do throw (.killed (← own).number Signal.segmentation)
  | fuel + 1 => do
    let number ← newNumber
    let slept := (← commons).slept
    withStreams do
      setChannel 0 (some .nowhere)
      inSubshell (fun text => source false text fuel) (run false body fuel)
    let sleeps := (← commons).slept ≠ slept
    modifyOwn fun p => { p with
      jobs := ⟨number, p.status, none, sleeps⟩ :: p.jobs, status := 0 }

def output (s : Script) : Nat → Act ByteArray
  | 0 => do throw (.killed (← own).number Signal.segmentation)
  | fuel + 1 => do
    if s matches .nothing then return .empty
    let status := (← own).status
    let (_, bytes) ← keeping do
      inSubshell (fun text => source false text fuel) (run false s fuel)
    modifyOwn fun p => { p with status := status, innerStatus := some p.status }
    return bytes

def source (isTested : Bool) (text : String) : Nat → Act Unit
  | 0 => do throw (.killed (← own).number Signal.segmentation)
  | fuel + 1 =>
    eachCommand (fun s => run isTested s fuel) (Cursor.start text.toList 0 []) false
      (text.length + 2)

/-- Runs the scripts for the signals that have come; they leave the status as it is. -/
def answerSignals : Nat → Act Unit
  | 0 => do throw (.killed (← own).number Signal.segmentation)
  | fuel + 1 => do
    let signals := (← own).pending
    modifyOwn fun p => { p with pending := [] }
    signals.forM fun signal => do
      let p ← own
      if let some text := p.traps.lookup signal then
        modifyOwn fun p => { p with interruptedStatus := some p.status }
        source false text fuel
        modifyOwn fun q => { q with status := p.status, interruptedStatus := p.interruptedStatus }

def simple (isTested : Bool) (line : Nat) (assignments : List (String × Word)) (words : List Word)
    (redirections : List Redirection) : Nat → Act Unit
  | 0 => do throw (.killed (← own).number Signal.segmentation)
  | fuel + 1 => do
    let inner : Expansion.Runner := fun s => output s fuel
    modifyOwn fun p => { p with line := line, innerStatus := none }
    let texts ← Callee.texts inner [] words
    let callee := Callee.ofWords texts
    let aims ← redirections.mapM (Aim.ofRedirection inner)
    let errors ← channel? 2
    let isExecution := callee.words.head? = some "exec"
    let held ← holdsOutput
    let isLocal := !callee.words.isEmpty && !callee.isSpecial
    let assign (name : String) (word : Word) : Act String := do
      let value ← Expansion.value inner word
      if isLocal then hide name
      setVariable name (some value)
      if isLocal || isExecution then
        putVariable name { (← binding? name).getD .unset with isExported := true }
      return name ++ "=" ++ value
    let act : Act Unit := do
      if ← Aim.takeAll aims then
        let settings ← assignments.mapM fun (name, word) => assign name word
        trace inner errors (settings ++ texts)
        if isExecution then noteClosing held
        call isTested callee fuel
      else
        setStatus 2
        if callee.isSpecial then throw .misuse
    let act := if callee.words = ["exec"] then act else withStreams act
    if isLocal then withLocals act else act

def call (isTested : Bool) (callee : Callee) : Nat → Act Unit
  | 0 => do throw (.killed (← own).number Signal.segmentation)
  | fuel + 1 => do
    let p ← own
    match callee.words with
    | [] => setStatus (p.innerStatus.getD 0)
    | name :: args =>
      match if callee.meansFunctions then p.functions[name]? else none with
      | some body => function isTested body args fuel
      | none =>
        if Lookup.isOwn name then builtin isTested callee.isSpecial name args fuel
        else accept (← program (name :: args) fuel)

def function (isTested : Bool) (body : Script) (args : List String) : Nat → Act Unit
  | 0 => do throw (.killed (← own).number Signal.segmentation)
  | fuel + 1 => do
    let before ← own
    modifyOwn fun p => { p with
      arguments := args, loops := 0, calls := p.calls + 1, optionIndex := 1, optionOffset := 0 }
    let act : Act Unit := do
      try run isTested body fuel
      catch
        | .leaveFunction => return
        | stop => throw stop
    try act finally
      modifyOwn fun p => { p with
        arguments := before.arguments, loops := before.loops, calls := before.calls
        optionIndex := before.optionIndex, optionOffset := before.optionOffset }

/-- Runs a command of the shell; a misuse only goes further when the command is a special one. -/
def builtin (isTested : Bool) (isSpecial : Bool) (name : String) (args : List String) : Nat → Act Unit
  | 0 => do throw (.killed (← own).number Signal.segmentation)
  | fuel + 1 => do
    let before := (← own).command
    modifyOwn fun p => { p with command := some name }
    let act : Act Unit := do
      try setStatus (← builtinStatus isTested name args fuel)
      catch
        | .misuse => if isSpecial then throw .misuse else return
        | stop => throw stop
    try act finally modifyOwn fun p => { p with command := before }

def builtinStatus (isTested : Bool) (name : String) (args : List String) : Nat → Act Nat
  | 0 => do throw (.killed (← own).number Signal.segmentation)
  | fuel + 1 => do
    match name, args with
    | "eval", args => do
      source isTested (String.intercalate " " args) fuel
      return (← own).status
    | ".", args => do
      let (_, args) ← options "" "" args
      let name :: _ := args | return 0
      let path ← sourcePath name
      let text ← fileText path
      modifyOwn fun p => { p with command := some path }
      try source false text fuel
      catch
        | .leaveFunction => pure ()
        | stop => throw stop
      return (← own).status
    | "exec", [] => return 0
    | "exec", args => do
      match ← program args fuel with
      | .signal n => throw (.killed (← own).number n)
      | .status n => do
        if n ≠ 126 && n ≠ 127 then modifyOwn fun p => { p with traps := [] }
        Act.exit n
    | "command", args => do
      let (os, names) ← options "" "pvV" args
      let isShort := os.any (·.1 = 'v')
      match names with
      | [] => return 0
      | name :: _ => Builtin.describeAll Utility.isKnown isShort [name]
    | name, args =>
      match Builtin.find? Utility.isKnown name with
      | some act => act args
      | none => return 127

def program (words : List String) : Nat → Act Ending
  | 0 => do throw (.killed (← own).number Signal.segmentation)
  | fuel + 1 => do
    let name := words.headD ""
    match ← launch words fuel with
    | .ok ending => return ending
    | .error f => do
      let isMissing := f = .notFound || f = .notADirectory || f = .tooManyLinks || f = .nameTooLong
      let reason := if f = .notFound || f = .notADirectory then "not found" else f.text
      warn s!"{name}: {reason}"
      return .status (if isMissing || name.isEmpty then 127 else 126)

def launch (words : List String) : Nat → Act (Except SystemFault Ending)
  | 0 => do throw (.killed (← own).number Signal.segmentation)
  | fuel + 1 => do
    let name :: args := words | return .error .notFound
    match ← Lookup.program Utility.isKnown name with
    | (.system known, _) => return .ok (← system known name args fuel)
    | (.script place, path) => do
      let bytes := match (← commons).files.find? place with
        | some (.file bytes _) => bytes
        | _ => .empty
      match interpreter? bytes with
      | none => return .ok (← system "sh" "sh" (path :: args) fuel)
      | some (interpreter, arguments) =>
        match ← Lookup.programAt Utility.isKnown false interpreter with
        | .system known =>
          return .ok (← system known interpreter (arguments ++ path :: args) fuel)
        | _ => return .error .notFound
    | (.forbidden, _) => return .error .permissionDenied
    | (.missing, _) => return .error (if name.isEmpty then .permissionDenied else .notFound)

def system (known name : String) (args : List String) : Nat → Act Ending
  | 0 => do throw (.killed (← own).number Signal.segmentation)
  | fuel + 1 => do
    if Utility.shellNames.contains known then
      let p ← Start.child (← newNumber) name
      asProcess p <| toEnd (fun text => source false text fuel) do
        match ← Start.task args with
        | .text text => source false text fuel
        | .input => source false (ByteText.ofBytes (← readInput)) fuel
        | .file path => do
          let text ← fileText path
          modifyOwn fun p => { p with name := path }
          source false text fuel
    else
      let launched (words : List String) : Act (Except SystemFault Nat) := do
        match ← launch words fuel with
        | .ok (.status n) => return .ok n
        | .ok (.signal n) => return .ok (128 + n)
        | .error f => return .error f
      match Utility.find? launched known with
      | some act => return .status (← withStreams (act args))
      | none => return .status 127

end

end Evaluate

end Scaffold.Shell
