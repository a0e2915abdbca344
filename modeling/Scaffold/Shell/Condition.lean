import Scaffold.Files.Operations
import Scaffold.Shell.Arithmetic
import Scaffold.Shell.ByteText

/-!
The conditions that a shell tests: on texts, on integers and on files. They are given as words, and
it depends on what stands after a word whether it is an operator.
-/
namespace Scaffold.Shell.Condition

inductive Fault where
  | badNumber (text : String)
  | malformed (operator what : String)
  deriving DecidableEq, Repr

def Fault.message : Fault → String
  | badNumber text => s!"Illegal number: {text}"
  | malformed "" what => what
  | malformed operator what => s!"{operator}: {what}"

structure Place where
  files : FileTree
  directory : Location

namespace Place

def entry? (p : Place) (path : String) : Option Entry :=
  Files.lookup? p.files p.directory (ByteText.text path)

/-- The entry itself, which may be a symbolic link. -/
def ownEntry? (p : Place) (path : String) : Option Entry :=
  match Files.locateEntry p.files p.directory (ByteText.text path) with
  | .ok place => p.files.find? place
  | .error _ => none

def isDevice (path : String) : Bool := path = "/dev/null"

end Place

def integer (text : String) : Except Fault Int :=
  match Arithmetic.whole? (some 10) false text with
  | some n => return n
  | none => throw (.badNumber text)

/-! Operators. -/

def binaryOperators : List String :=
  ["=", "!=", "<", ">", "-eq", "-ne", "-ge", "-gt", "-le", "-lt", "-nt", "-ot", "-ef"]

def unaryOperators : List String :=
  ["-r", "-w", "-x", "-e", "-f", "-d", "-c", "-b", "-p", "-u", "-g", "-k", "-s", "-t", "-z", "-n",
    "-h", "-L", "-O", "-G", "-S"]

def compare (holds : Int → Int → Bool) (a b : String) : Except Fault Bool :=
  return holds (← integer a) (← integer b)

def binary (p : Place) (op a b : String) : Except Fault Bool :=
  match op with
  | "=" => return a = b
  | "!=" => return a ≠ b
  | "<" => return a < b
  | ">" => return b < a
  | "-eq" => compare (· = ·) a b
  | "-ne" => compare (· ≠ ·) a b
  | "-lt" => compare (· < ·) a b
  | "-le" => compare (· ≤ ·) a b
  | "-gt" => compare (· > ·) a b
  | "-ge" => compare (· ≥ ·) a b
  | "-ef" =>
    let place (path : String) := (Files.locate p.files p.directory (ByteText.text path)).toOption
    return (place a).isSome && place a = place b
  | _ => return false

def unary (p : Place) (op a : String) : Except Fault Bool :=
  match op with
  | "-n" => return !a.isEmpty
  | "-z" => return a.isEmpty
  | "-e" | "-r" | "-w" | "-O" | "-G" => return (p.entry? a).isSome || Place.isDevice a
  | "-d" => return p.entry? a = some .directory
  | "-x" =>
    return (p.entry? a).any fun
      | .directory => true
      | .file _ isProgram => isProgram
      | .link _ => false
  | "-f" => return (p.entry? a).any fun e => e ≠ .directory
  | "-s" =>
    return (p.entry? a).any fun
      | .file bytes _ => bytes.size ≠ 0
      | _ => true
  | "-h" | "-L" => return (p.ownEntry? a).any fun e => (e matches .link _)
  | "-c" => return Place.isDevice a
  | "-t" => do
    let _ ← integer a
    return false
  | _ => return false

/-! Words. -/

inductive Role where
  | operand
  | unary (op : String)
  | binary (op : String)
  | negation
  | both
  | either
  | opening
  | closing
  | finish
  deriving DecidableEq

def role? (word : String) : Option Role :=
  if unaryOperators.contains word then some (.unary word)
  else if binaryOperators.contains word then some (.binary word)
  else
    match word with
    | "!" => some .negation
    | "-a" => some .both
    | "-o" => some .either
    | "(" => some .opening
    | ")" => some .closing
    | _ => none

/-- The role of the first of some words. An operator before one text is none when nothing follows it,
or when an operator between two texts does. -/
def role (words : List String) : Role :=
  match words with
  | [] => .finish
  | word :: rest =>
    match role? word with
    | none => .operand
    | some (.unary op) =>
      match rest with
      | [] => .operand
      | [_] => .unary op
      | next :: _ => if binaryOperators.contains next then .operand else .unary op
    | some .opening => if rest.isEmpty then .operand else .opening
    | some r => r

/-- Going through the words of a condition; what has been read of a condition ends before its last
word is passed. -/
abbrev Reading := StateT (List String) (Except Fault)

def roleAt (n : Nat) : Reading Role := return role ((← get).drop n)

def skip (n : Nat) : Reading Unit := modify (·.drop n)

mutual

def either (p : Place) (first : Role) : Nat → Reading Bool
  | 0 => return false
  | fuel + 1 => do
    let a ← both p first fuel
    if (← roleAt 1) ≠ .either then return a
    skip 2
    let b ← either p (← roleAt 0) fuel
    return a || b

def both (p : Place) (first : Role) : Nat → Reading Bool
  | 0 => return false
  | fuel + 1 => do
    let a ← negated p first fuel
    if (← roleAt 1) ≠ .both then return a
    skip 2
    let b ← both p (← roleAt 0) fuel
    return a && b

def negated (p : Place) (first : Role) : Nat → Reading Bool
  | 0 => return false
  | fuel + 1 => do
    if first ≠ .negation then single p first fuel
    else
      let next ← roleAt 1
      if next ≠ .finish then skip 1
      return !(← negated p next fuel)

def single (p : Place) (first : Role) : Nat → Reading Bool
  | 0 => return false
  | fuel + 1 => do
    match first with
    | .finish => return false
    | .opening => do
      skip 1
      let next ← roleAt 0
      if next = .closing then return false
      let holds ← either p next fuel
      skip 1
      if (← roleAt 0) ≠ .closing then throw (.malformed "" "closing paren expected")
      return holds
    | .unary op =>
      match ← get with
      | _ :: a :: rest => do
        set (a :: rest)
        liftM (unary p op a)
      | _ => throw (.malformed op "argument expected")
    | _ =>
      match ← get, ← roleAt 1 with
      | a :: _ :: rest, .binary op =>
        match rest with
        | b :: rest => do
          set (b :: rest)
          liftM (binary p op a b)
        | [] => throw (.malformed op "argument expected")
      | a :: _, _ => return !a.isEmpty
      | [], _ => return false

end

def wholeHolds (p : Place) (first : Role) (words : List String) : Except Fault Bool := do
  let (holds, rest) ← (either p first (4 * words.length + 4)).run words
  match rest with
  | op :: _ :: _ => throw (.malformed op "unexpected operator")
  | _ => return holds

/-- Whether the words say something that holds; no words do not. Up to four words mean what their
number says: the middle one of three is an operator if it can be one, and a first exclamation mark
turns the rest around. -/
def holds (p : Place) (words : List String) : Nat → Except Fault Bool
  | 0 => return false
  | fuel + 1 => do
    let isShort := words.length = 3 || words.length = 4
    let isBinary := words.length = 3 && (words[1]?).any binaryOperators.contains
    if words.isEmpty then return false
    if isBinary then wholeHolds p .operand words
    else if isShort && words.head? = some "(" && words.getLast? = some ")" then
      let inner := (words.drop 1).dropLast
      wholeHolds p (role inner) inner
    else if isShort && words.head? = some "!" then
      return !(← holds p (words.drop 1) fuel)
    else wholeHolds p (role words) words

end Scaffold.Shell.Condition
