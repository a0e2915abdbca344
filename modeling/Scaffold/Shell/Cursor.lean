import Scaffold.Shell.Script

/-!
A place in the text of a script, and readings from there. A backslash before the end of a line joins
it with the next one; the documents of a script stand after the line that asks for them.
-/
namespace Scaffold.Shell

structure Malformed where
  line : Nat
  text : String
  deriving DecidableEq, Repr

inductive RedirectionKind where
  | file (opening : Opening)
  | same
  | document (dropsTabs : Bool)
  deriving DecidableEq, Repr

inductive Token where
  | word (w : Word)
  | keyword (name : String)
  | operator (name : String)
  | redirection (stream : Nat) (kind : RedirectionKind)
  | newline
  | finish

/-- A document whose end mark has been read, and whose text has not. -/
structure Awaited where
  number : Nat
  mark : List Char
  isQuoted : Bool
  dropsTabs : Bool

structure Cursor where
  rest : List Char
  line : Nat
  pushed : Option Token
  awaited : List Awaited
  documents : List Document
  nextDocument : Nat
  /-- Whether the word that is read is the end mark of a document, in which nothing is expanded. -/
  readsMark : Bool
  aliases : List (String × String)
  /-- The aliases that are being replaced, and how much of the text is left after each of them. -/
  replaced : List (String × Nat)

abbrev Reading := StateT Cursor (Except Malformed)

namespace Cursor

def start (text : List Char) (nextDocument : Nat) (aliases : List (String × String)) : Cursor where
  rest := text
  line := 1
  pushed := none
  awaited := []
  documents := []
  nextDocument := nextDocument
  readsMark := false
  aliases := aliases
  replaced := []

/-- Leaves out the ends of lines that a backslash takes away. -/
def joinedText : List Char → Nat → List Char × Nat
  | '\\' :: '\n' :: rest, line => joinedText rest (line + 1)
  | rest, line => (rest, line)

end Cursor

namespace Reading

def fail (text : String) : Reading α := do
  throw ⟨(← get).line, "Syntax error: " ++ text⟩

def joined : Reading (List Char) := do
  let c ← get
  let (rest, line) := Cursor.joinedText c.rest c.line
  set { c with rest := rest, line := line }
  return rest

def goTo (rest : List Char) : Reading Unit := modify fun c => { c with rest := rest }

def goPast (text rest : List Char) : Reading Unit :=
  modify fun c => { c with rest := rest, line := c.line + text.count '\n' }

def putBack (t : Token) : Reading Unit := modify fun c => { c with pushed := some t }

end Reading

/-! Names. -/

namespace Token

def isNameStart (c : Char) : Bool := c.isAlpha || c = '_'
def isNameChar (c : Char) : Bool := c.isAlphanum || c = '_'

def isName (s : List Char) : Bool := s.head?.any isNameStart && s.all isNameChar

def isSpecial (c : Char) : Bool := "?$#@*!-".contains c || c.isDigit

def endsWord (c : Char) : Bool := " \t\n;&|<>()".contains c

end Token

end Scaffold.Shell
