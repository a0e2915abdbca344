import Scaffold.Shell.Machine

/-!
Reading and writing through the streams of a shell, and where they lead.
-/
namespace Scaffold.Shell.Act

/-! Channels. -/

def newPipe (bytes : ByteArray) : Act Nat := do
  let n ← newNumber
  modifyCommons fun c => { c with pipes := c.pipes.insert n ⟨bytes, 0⟩ }
  return n

/-- What has been put into a pipe and not been taken; the pipe is gone after that. -/
def emptyPipe (n : Nat) : Act ByteArray := do
  let c ← commons
  modifyCommons fun c => { c with pipes := c.pipes.erase n }
  return c.pipes[n]?.elim .empty fun p => p.bytes.extract p.taken p.bytes.size

def overwritten (old new : ByteArray) (offset : Nat) : ByteArray :=
  if offset = old.size then old ++ new
  else
    let front := old.extract 0 offset
    let gap := ByteArray.mk (Array.replicate (offset - old.size) 0)
    front ++ gap ++ new ++ old.extract (offset + new.size) old.size

def writeFile (n : Nat) (f : OpenFile) (bytes : ByteArray) : Act Unit :=
  modifyCommons fun c =>
    match c.files.find? f.place with
    | some (.file old isProgram) =>
      let offset := if f.isAppended then old.size else f.offset
      { c with
        files := c.files.put f.place (.file (overwritten old bytes offset) isProgram)
        openFiles := c.openFiles.insert n { f with offset := offset + bytes.size } }
    | _ => c

def writeTo (channel : Channel) (bytes : List UInt8) : Act Bool := do
  match channel with
  | .output => do
    modifyCommons fun c => { c with console := c.console.write bytes }
    return true
  | .error => do
    modifyCommons fun c => { c with console := c.console.writeError bytes }
    return true
  | .nowhere => return true
  | .input => return false
  | .pipe n => do
    modifyCommons fun c =>
      match c.pipes[n]? with
      | some p => { c with pipes := c.pipes.insert n { p with bytes := p.bytes ++ ⟨bytes.toArray⟩ } }
      | none => c
    return true
  | .file n => do
    match (← commons).openFiles[n]? with
    | some f =>
      if f.isWritable then writeFile n f ⟨bytes.toArray⟩
      return f.isWritable
    | none => return false

def fileBytes (f : OpenFile) : Act ByteArray := do
  match (← commons).files.find? f.place with
  | some (.file bytes _) => return bytes
  | _ => return .empty

def readByteFrom? (channel : Channel) : Act (Option UInt8) := do
  let c ← commons
  match channel with
  | .input =>
    match c.console.readByte? with
    | none => return none
    | some (b, console) =>
      modifyCommons fun c => { c with console := console }
      return some b
  | .pipe n =>
    match c.pipes[n]? with
    | none => return none
    | some p =>
      match p.bytes[p.taken]? with
      | none => return none
      | some b =>
        modifyCommons fun c => { c with pipes := c.pipes.insert n { p with taken := p.taken + 1 } }
        return some b
  | .file n =>
    match c.openFiles[n]? with
    | none => return none
    | some f =>
      match (← fileBytes f)[f.offset]? with
      | none => return none
      | some b =>
        modifyCommons fun c =>
          { c with openFiles := c.openFiles.insert n { f with offset := f.offset + 1 } }
        return some b
  | _ => return none

def readAllFrom (channel : Channel) : Act (List UInt8) := do
  let c ← commons
  match channel with
  | .input => do
    let (bytes, console) := c.console.readAll
    modifyCommons fun c => { c with console := console }
    return bytes
  | .pipe n =>
    match c.pipes[n]? with
    | none => return []
    | some p =>
      modifyCommons fun c =>
        { c with pipes := c.pipes.insert n { p with taken := max p.taken p.bytes.size } }
      return (p.bytes.extract p.taken p.bytes.size).toList
  | .file n =>
    match c.openFiles[n]? with
    | none => return []
    | some f =>
      let bytes ← fileBytes f
      modifyCommons fun c =>
        { c with openFiles := c.openFiles.insert n { f with offset := max f.offset bytes.size } }
      return (bytes.extract f.offset bytes.size).toList
  | _ => return []

def boundOf (channel : Channel) : Act Nat := do
  let c ← commons
  match channel with
  | .input => return c.console.bound
  | .pipe n => return c.pipes[n]?.elim 1 fun p => p.bytes.size + 1
  | .file n =>
    match c.openFiles[n]? with
    | none => return 1
    | some f => return (← fileBytes f).size + 1
  | _ => return 1

def giveBack (channel : Channel) (bytes : List UInt8) : Act Unit :=
  modifyCommons fun c =>
    match channel with
    | .input =>
      if c.inputIsFile && c.console.interactions.isNone then
        { c with console := { c.console with input := bytes ++ c.console.input } }
      else c
    | .file n =>
      match c.openFiles[n]? with
      | some f =>
        { c with openFiles := c.openFiles.insert n { f with offset := f.offset - bytes.length } }
      | none => c
    | _ => c

/-! Streams. -/

def channel? (stream : Nat) : Act (Option Channel) := return (← own).streams.lookup stream

def holdsOutput : Act Bool := return (← own).streams.any (·.2 = .output)

/-- Says that nobody can write to the output any more, if the shell that runs the command has given it up. -/
def noteClosing (wasHeld : Bool) : Act Unit := do
  let p ← own
  let isFirst := p.number = processNumber && !p.isSubshell
  if isFirst && wasHeld && !(← holdsOutput) then
    modifyCommons fun c => { c with console := c.console.close }

def setChannel (stream : Nat) (channel : Option Channel) : Act Unit :=
  modifyOwn fun p =>
    let others := p.streams.filter (·.1 ≠ stream)
    { p with streams := channel.elim others fun c => (stream, c) :: others }

def tryWrite (bytes : List UInt8) : Act Bool := do
  if bytes.isEmpty then return true
  match ← channel? 1 with
  | some channel => writeTo channel bytes
  | none => return false

def write (bytes : List UInt8) : Act Unit := do
  let _ ← tryWrite bytes

def writeText (text : String) : Act Unit := write (ByteText.bytes text)
def writeLine (text : String) : Act Unit := writeText (text ++ "\n")

def complain (text : String) : Act Unit := do
  if let some channel ← channel? 2 then
    let _ ← writeTo channel (ByteText.bytes (text ++ "\n"))

/-- What a shell itself says: its name, the line, and the command that is running. -/
def warn (text : String) : Act Unit := do
  let p ← own
  let command := p.command.elim "" (· ++ ": ")
  complain s!"{p.name}: {p.line}: {command}{text}"

def fail (text : String) : Act α := do
  warn text
  setStatus 2
  throw .misuse

def readByte? : Act (Option UInt8) := do
  match ← channel? 0 with
  | some channel => readByteFrom? channel
  | none => return none

def readInput : Act (List UInt8) := do
  match ← channel? 0 with
  | some channel => readAllFrom channel
  | none => return []

def withStreams (act : Act α) : Act α := do
  let streams := (← own).streams
  let restore : Act Unit := modifyOwn fun p => { p with streams := streams }
  let a ← try act catch stop => do
    restore
    throw stop
  restore
  return a

def keeping (act : Act α) : Act (α × ByteArray) := do
  let n ← newPipe .empty
  let a ← withStreams do
    setChannel 1 (some (.pipe n))
    act
  return (a, ← emptyPipe n)

/-! Files. -/

def systemPath (path : String) : String := ByteText.text path

def onFiles (action : Location → Files.Action α) : Act (Except SystemFault α) := do
  let m ← get
  let (result, files) := (action m.own.directory).run m.commons.files
  modifyCommons fun c => { c with files := files }
  return result

def openingFault (isRead : Bool) (f : SystemFault) : String :=
  match f with
  | .notFound | .notADirectory => if isRead then "No such file" else "Directory nonexistent"
  | f => f.text

def device? (path : String) : Act (Option Channel) := do
  match path with
  | "/dev/null" => return some .nowhere
  | "/dev/stdin" | "/dev/fd/0" => channel? 0
  | "/dev/stdout" | "/dev/fd/1" => channel? 1
  | "/dev/stderr" | "/dev/fd/2" => channel? 2
  | _ => return none

def openAt (place : Location) (opening : Opening) : Act Channel := do
  let n ← newNumber
  let f : OpenFile :=
    { place := place, offset := 0, isAppended := opening = .append
      isReadable := opening = .read || opening = .both, isWritable := opening ≠ .read }
  modifyCommons fun c =>
    let files :=
      match opening, c.files.find? place with
      | .write _, _ => c.files.putBytes place .empty
      | .append, none | .both, none => c.files.putBytes place .empty
      | _, _ => c.files
    { c with files := files, openFiles := c.openFiles.insert n f }
  return .file n

def openPath (path : String) (opening : Opening) : Act (Except SystemFault Channel) := do
  if let some channel ← device? path then return .ok channel
  let m ← get
  let path := systemPath path
  let place :=
    if opening = .read then Files.locate m.commons.files m.own.directory path
    else Files.writable m.commons.files m.own.directory path
  match place with
  | .error f => return .error f
  | .ok place =>
    let isKept := opening = .write false && m.own.settings.contains 'C' &&
      (m.commons.files.find? place).isSome
    if isKept then return .error .exists
    return .ok (← openAt place opening)

def redirectToFile (stream : Nat) (opening : Opening) (path : String) : Act Bool := do
  match ← openPath path opening with
  | .ok channel => do
    setChannel stream (some channel)
    return true
  | .error f => do
    let isRead := opening = .read
    let verb := if isRead then "open" else "create"
    warn s!"cannot {verb} {path}: {openingFault isRead f}"
    return false

/-- Makes a stream the same as another one, or closes it; the result says whether there is the other
one. -/
def redirectToStream (stream : Nat) (source : Option Nat) : Act Bool := do
  match source with
  | none => do
    setChannel stream none
    return true
  | some source =>
    match ← channel? source with
    | some channel => do
      setChannel stream (some channel)
      return true
    | none => do
      warn s!"{source}: Bad file descriptor"
      return false

def redirectToText (stream : Nat) (text : String) : Act Unit := do
  setChannel stream (some (.pipe (← newPipe ⟨(ByteText.bytes text).toArray⟩)))

end Scaffold.Shell.Act
