import Scaffold.Shell.Command
import Scaffold.Shell.Dialogue

/-!
The input and output that a command shares with the process that runs it. An interactive command
reads the lines that are handed to it instead of the process's input.
-/
namespace Scaffold.Shell

structure Console where
  interactions : Option (List Blueprint.Interaction)
  /-- The bytes of the process's input at the beginning, or those left if commands read them. -/
  input : List UInt8
  operator : Operator
  dialogue : Dialogue.State
  /-- How many of the bytes that were handed to an interactive command it has read. -/
  read : Nat
  printed : List Printed

namespace Console

/-- The lines of an input; the last one need not be ended. -/
def inputLines (bytes : List UInt8) : List (List UInt8) :=
  match bytes with
  | [] => []
  | b :: bytes =>
    let line := (b :: bytes).takeWhile (· ≠ 10)
    line :: inputLines (bytes.drop line.length)
termination_by bytes.length
decreasing_by simp only [List.length_drop, List.length_cons]; omega

def afterLines : Nat → List UInt8 → List UInt8
  | 0, bytes => bytes
  | n + 1, bytes => afterLines n ((bytes.dropWhile (· ≠ 10)).drop 1)

def operatorLines (s : Surroundings) : List String :=
  match s.operator with
  | .typed lines => lines
  | .input => (inputLines s.input).map Dialogue.pieceText

def start (i : Option (List Blueprint.Interaction)) (s : Surroundings) : Console where
  interactions := i
  input := s.input
  operator := s.operator
  dialogue := i.elim (.start []) fun is => .begun is (operatorLines s)
  read := 0
  printed := []

def goOn (f : List Blueprint.Interaction → Dialogue.State → Dialogue.State) (c : Console) : Console :=
  match c.interactions with
  | none => c
  | some is => { c with dialogue := f is c.dialogue }

def write (bytes : List UInt8) (c : Console) : Console :=
  if bytes.isEmpty then c
  else
    let c := c.goOn fun is s => s.printedPieces is (Dialogue.pieces Dialogue.pieceSize bytes)
    { c with printed := c.printed ++ [Printed.out bytes] }

def writeError (bytes : List UInt8) (c : Console) : Console :=
  if bytes.isEmpty then c else { c with printed := c.printed ++ [Printed.err bytes] }

/-- Time goes by while a command sleeps. -/
def pause (c : Console) : Console := c.goOn fun is s => s.relayedAll is

/-- Nobody can write to the output any more. -/
def close (c : Console) : Console := c.goOn fun is s => s.ended is

/-- Reads a byte. An interactive command gets a line of the operator if it has read all that was handed
to it. -/
def readByte? (c : Console) : Option (UInt8 × Console) :=
  match c.interactions with
  | none =>
    match c.input with
    | [] => none
    | b :: bytes => some (b, { c with input := bytes })
  | some is =>
    let c := if c.read < c.dialogue.handed.size then c
      else { c with dialogue := c.dialogue.relayed is 1 }
    c.dialogue.handed[c.read]?.map fun b => (b, { c with read := c.read + 1 })

def readAll (c : Console) : List UInt8 × Console :=
  match c.interactions with
  | none => (c.input, { c with input := [] })
  | some is =>
    let s := c.dialogue.relayedAll is
    (s.handed.toList.drop c.read, { c with dialogue := s, read := s.handed.size })

def bound (c : Console) : Nat :=
  let queued := c.dialogue.queue.foldl (fun size line => size + line.utf8ByteSize + 1) 0
  c.input.length + (c.dialogue.handed.size - c.read) + queued + 2

def left (c : Console) : List UInt8 × Operator :=
  match c.interactions, c.operator with
  | none, _ => (c.input, c.operator)
  | some _, .typed _ => (c.input, .typed c.dialogue.queue)
  | some _, .input =>
    let taken := (inputLines c.input).length - c.dialogue.queue.length
    (afterLines taken c.input, .input)

def finish (files : FileTree) (code : Option Nat) (c : Console) : Finished :=
  let c := c.close
  let (input, operator) := c.left
  { code := code
    captured := Dialogue.captured c.dialogue.received.toList
    printed := c.printed
    surroundings := ⟨files, input, operator⟩ }

end Console

end Scaffold.Shell
