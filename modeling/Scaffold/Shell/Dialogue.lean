import Scaffold.Blueprint.Basic
import Scaffold.Text.Search
import Scaffold.Text.Utf8

/-!
What happens while an interactive command runs, and what is handed to its input: for each piece of
its output the answer to the first scripted question in it, and each line that the operator types.
The command, its reader, the relay of the operator's lines and the loop that hands lines over each go
on by moves of their own, in any order.
-/
namespace Scaffold

def Blueprint.Interaction.find? (interactions : List Blueprint.Interaction) (piece : String) :
    Option Blueprint.Interaction :=
  interactions.find? fun i => Text.contains piece i.question

namespace Dialogue

inductive Event where
  | printed (piece : List UInt8)
  | typed (line : String)
  | closed
  deriving DecidableEq, Repr

def pieceText (piece : List UInt8) : String :=
  String.ofList (Text.decodeLossy piece)

def line? (interactions : List Blueprint.Interaction) : Event → Option String
  | .printed piece => (Blueprint.Interaction.find? interactions (pieceText piece)).map (·.answer)
  | .typed line => some line
  | .closed => none

def lineBytes (line : String) : List UInt8 := (line ++ "\n").toUTF8.data.toList

/-- All that the command has printed, as text: each piece is read for itself. -/
def captured (events : List Event) : String :=
  String.join <| events.filterMap fun
    | .printed piece => some (pieceText piece)
    | _ => none

def pieceSize : Nat := 4096

def pieces (size : Nat) (bytes : List UInt8) : List (List UInt8) :=
  match size, bytes with
  | 0, _ => []
  | _, [] => []
  | size + 1, b :: bytes => (b :: bytes.take size) :: pieces (size + 1) (bytes.drop size)
termination_by bytes.length
decreasing_by simp only [List.length_drop, List.length_cons]; omega

/-! Moves. -/

inductive Relay where
  | checking
  | waiting
  | holding (line : String)
  | stopped
  deriving DecidableEq, Repr

/-- A dialogue on its way. Events are told by the reader and by the relay, and the loop receives them in
the order in which they were told. -/
structure State where
  queue : List String
  relay : Relay
  isClosed : Bool
  channel : List Event
  received : Array Event
  handed : Array UInt8
  /-- Whether the loop has come to its end, so that the relay has to stop. -/
  isOver : Bool
  deriving DecidableEq, Repr

inductive Move where
  | print (piece : List UInt8)
  | close
  /-- The relay looks whether it has to stop, and waits for a line if not. -/
  | check
  | take
  /-- No line has come for some time. -/
  | giveUp
  | leave
  | tell
  /-- The loop receives an event and hands over the line that belongs to it. -/
  | receive
  deriving DecidableEq, Repr

namespace State

def start (queue : List String) : State := ⟨queue, .checking, false, [], #[], #[], false⟩

variable (interactions : List Blueprint.Interaction)

/-- A move; one that cannot be made changes nothing. -/
def move (s : State) : Move → State
  | .print piece => if s.isClosed then s else { s with channel := s.channel ++ [.printed piece] }
  | .close => if s.isClosed then s else { s with isClosed := true, channel := s.channel ++ [.closed] }
  | .check =>
    match s.relay with
    | .checking => { s with relay := if s.isOver then .stopped else .waiting }
    | _ => s
  | .take =>
    match s.relay, s.queue with
    | .waiting, line :: queue => { s with relay := .holding line, queue := queue }
    | _, _ => s
  | .giveUp =>
    match s.relay with
    | .waiting => { s with relay := .checking }
    | _ => s
  | .leave =>
    match s.relay, s.queue with
    | .waiting, [] => { s with relay := .stopped }
    | _, _ => s
  | .tell =>
    match s.relay with
    | .holding line => { s with relay := .checking, channel := s.channel ++ [.typed line] }
    | _ => s
  | .receive =>
    match s.isOver, s.channel with
    | false, e :: channel =>
      { s with
        channel := channel, received := s.received.push e
        handed := s.handed ++ ((line? interactions e).map lineBytes).getD [], isOver := e = .closed }
    | _, _ => s

def after (s : State) (moves : List Move) : State := moves.foldl (move interactions) s

def isFinished (s : State) : Bool := s.isOver && s.relay = .stopped

/-! One order of the moves: lines that are there already reach the command while it starts, the others
one by one when it reads, or all while it sleeps. -/

def headStart : Nat := 1024

def relayed : Nat → State → State
  | 0, s => s
  | n + 1, s => relayed n (s.after interactions [.check, .take, .tell, .receive])

def begun (queue : List String) : State :=
  relayed interactions (min headStart queue.length) (start queue)

def relayedAll (s : State) : State := relayed interactions s.queue.length s

def printedPieces (s : State) (pieces : List (List UInt8)) : State :=
  s.after interactions (pieces.flatMap fun piece => [.print piece, .receive])

/-- The end of the output. The relay, which waits then, still takes a line if there is one. -/
def ended (s : State) : State :=
  let receipts := List.replicate (s.channel.length + 1) .receive
  s.after interactions ([.check, .close] ++ receipts ++ [.take, .tell, .giveUp, .check])

end State

end Dialogue

end Scaffold
