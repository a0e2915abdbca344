import Scaffold.Shell.Builtin.Options
import Scaffold.Shell.Signal

/-!
The commands of a shell that end it, its loops and its functions, and those on signals and on the
scripts beside it.
-/
namespace Scaffold.Shell.Builtin

open Act

/-! Ends. -/

def exitShell (args : List String) : Act Nat := do
  match args with
  | [] => do
    let p ← own
    Act.exit (p.interruptedStatus.getD p.status)
  | arg :: _ => do Act.exit ((← number arg) % 256)

def returnFrom (args : List String) : Act Nat := do
  if let arg :: _ := args then setStatus ((← number arg) % 256)
  throw .leaveFunction

/-- Leaves loops, of which there may be fewer than are asked for. -/
def leaveLoops (stop : Nat → Stop) (args : List String) : Act Nat := do
  let n ← match args with
    | [] => pure 1
    | arg :: _ => do
      let n ← number arg
      if n = 0 then fail s!"Illegal number: {arg}"
      pure n
  let levels := min n (← own).loops
  if levels = 0 then return 0
  setStatus 0
  throw (stop levels)

/-! Signals. -/

def showTraps : Act Unit := do
  let traps := (← own).traps.mergeSort fun a b => decide (a.1 ≤ b.1)
  traps.forM fun (signal, script) =>
    writeLine s!"trap -- {Act.quoted script} {Signal.name signal}"

def setTraps (args : List String) : Act Nat := do
  let (_, args) ← options "" "" args
  match args with
  | [] => do
    showTraps
    return 0
  | first :: rest => do
    let isReset := rest.isEmpty || (first.toNat?.isSome && (Signal.ofText? first).isSome)
    let script? := if isReset || first = "-" then none else some first
    let names := if isReset then args else rest
    let bad? := names.find? fun name => (Signal.ofText? name).isNone
    let good := (names.takeWhile fun name => (Signal.ofText? name).isSome).filterMap Signal.ofText?
    good.forM fun signal => modifyOwn fun p =>
      let others := p.traps.filter (·.1 ≠ signal)
      { p with traps := script?.elim others fun s => (signal, s) :: others }
    match bad? with
    | some name => do
      complain s!"trap: {name}: bad trap"
      return 1
    | none => return 0

/-- Sends a signal to the process of this shell; that of a subshell gets to the shell that the
subshell belongs to. -/
def signalSelf (signal : Nat) : Act Unit := do
  let p ← own
  if signal = 0 then return
  if p.isSubshell then
    modifyCommons fun c => { c with raised := c.raised ++ [(p.number, signal)] }
  else
    match p.traps.lookup signal with
    | some script =>
      if signal = Signal.kill then throw (.killed p.number signal)
      if !script.isEmpty then modifyOwn fun p => { p with pending := p.pending ++ [signal] }
    | none => if !Signal.isHarmless signal then throw (.killed p.number signal)

def takeRaised : Act Unit := do
  let p ← own
  if !p.isSubshell then
    let signals := ((← commons).raised.filter (·.1 = p.number)).map (·.2)
    modifyCommons fun c => { c with raised := c.raised.filter (·.1 ≠ p.number) }
    signals.forM signalSelf

def sendSignal (signal : Nat) (process : Nat) : Act Bool := do
  let p ← own
  if process = p.number then
    signalSelf signal
    return true
  else
    let isJob := p.jobs.any (·.number = process)
    if signal ≠ 0 && !Signal.isHarmless signal then
      modifyOwn fun p => { p with
        jobs := p.jobs.map fun j =>
          if j.number = process && j.sleeps then
            { j with status := 128 + signal, signal := some signal, sleeps := false }
          else j }
    return isJob

def signalList : Act Unit := ("0" :: Signal.names).forM writeLine

def killUsage : String :=
  "Usage: kill [-s sigspec | -signum | -sigspec] [pid | job]... or\nkill -l [exitstatus]"

def signalAndTargets (args : List String) : Act (Nat × List String) := do
  match args with
  | "-s" :: name :: targets =>
    match Signal.ofText? name with
    | some n => return (n, targets)
    | none => fail s!"invalid signal number or name: {name}"
  | "--" :: targets => return (Signal.terminate, targets)
  | arg :: targets =>
    match arg.toList with
    | '-' :: c :: name =>
      match Signal.ofText? (String.ofList (c :: name)) with
      | some n => return (n, if targets.head? = some "--" then targets.drop 1 else targets)
      | none => fail s!"Illegal option -{c}"
    | _ => return (Signal.terminate, args)
  | [] => fail killUsage

def kill (args : List String) : Act Nat := do
  if args.head? = some "-l" then
    match args.drop 1 with
    | [] => signalList
    | arg :: _ => do
      let n ← number arg
      writeLine (Signal.name (if 128 < n then n - 128 else n))
    return 0
  let (signal, targets) ← signalAndTargets args
  if targets.isEmpty then fail killUsage
  let codes ← targets.mapM fun target => do
    let text := if target.startsWith "%" then (target.drop 1).toString else target
    let process ← number text
    if ← sendSignal signal process then return 0
    warn "No such process\n"
    return 1
  return codes.foldl max 0

/-! Scripts beside the shell. -/

/-- Waits for a script, which has always ended by then. -/
def waitFor (n : Nat) : Act Nat := do
  match (← own).jobs.find? (·.number = n) with
  | none => return 127
  | some job => do
    job.signal.forM fun signal => complain (Signal.description signal)
    modifyOwn fun p => { p with
      jobs := p.jobs.map fun j =>
        if j.number = n then { j with signal := none, sleeps := false } else j }
    return job.status

def wait (args : List String) : Act Nat := do
  let numbers ← if args.isEmpty then pure ((← own).jobs.map (·.number)) else args.mapM number
  let codes ← numbers.mapM waitFor
  return if args.isEmpty then 0 else codes.getLast?.getD 0

def showTimes : Act Nat := do
  writeLine "0m0.000000s 0m0.000000s"
  writeLine "0m0.000000s 0m0.000000s"
  return 0

end Scaffold.Shell.Builtin
