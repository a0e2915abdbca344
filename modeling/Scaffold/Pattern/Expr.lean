import Scaffold.Text.Ranges

/-!
Patterns for texts: characters of a set, places, sequences, alternatives, repetitions and numbered
groups. Earlier alternatives are preferred to later ones, and a greedy repetition prefers more turns.
-/
namespace Scaffold.Pattern

open Text

def topCodePoint : Nat := 0x10FFFF

/-- Places of a text. The four kinds of word places tell the word characters of ASCII from those of
Unicode. -/
inductive Look where
  | textStart
  | textEnd
  | lineStart (crlf : Bool)
  | lineEnd (crlf : Bool)
  | boundary (unicode : Bool)
  | notBoundary (unicode : Bool)
  | wordStart (unicode : Bool)
  | wordEnd (unicode : Bool)
  | noWordBefore (unicode : Bool)
  | noWordAfter (unicode : Bool)
  deriving DecidableEq, Repr

inductive Expr where
  | empty
  | char (set : Ranges)
  | look (l : Look)
  | seq (first second : Expr)
  | alt (first second : Expr)
  | rep (min : Nat) (max : Option Nat) (greedy : Bool) (e : Expr)
  | group (index : Nat) (e : Expr)
  deriving DecidableEq

namespace Expr

def isEmptyOnly : Expr → Bool
  | empty => true
  | char _ => false
  | look _ => true
  | seq e f => e.isEmptyOnly && f.isEmptyOnly
  | alt e f => e.isEmptyOnly && f.isEmptyOnly
  | rep _ max _ e => max = some 0 || e.isEmptyOnly
  | group _ e => e.isEmptyOnly

/-- Whether the empty text can match, the places aside. -/
def isNullable : Expr → Bool
  | empty => true
  | char _ => false
  | look _ => true
  | seq e f => e.isNullable && f.isNullable
  | alt e f => e.isNullable || f.isNullable
  | rep min _ _ e => min = 0 || e.isNullable
  | group _ e => e.isNullable

/-- A repetition. Of what is empty only one turn counts, and what takes no turn has no groups. -/
def ofRepetition (min : Nat) (max : Option Nat) (greedy : Bool) (e : Expr) : Expr :=
  let (min, max) :=
    if e.isEmptyOnly then (Nat.min min 1, some ((max.map (Nat.min 1)).getD 1)) else (min, max)
  if max = some 0 then empty
  else if min = 1 ∧ max = some 1 then e
  else rep min max greedy e

def groupCount : Expr → Nat
  | empty | char _ | look _ => 0
  | seq e f | alt e f => Nat.max e.groupCount f.groupCount
  | rep _ _ _ e => e.groupCount
  | group index e => Nat.max index e.groupCount

def hasGroup (index : Nat) : Expr → Bool
  | empty | char _ | look _ => false
  | seq e f | alt e f => e.hasGroup index || f.hasGroup index
  | rep _ _ _ e => e.hasGroup index
  | group i e => i = index || e.hasGroup index

end Expr

inductive Fault where
  | unclosedGroup
  | unopenedGroup
  | unclosedClass
  | invalidRange
  | nothingToRepeat
  | invalidRepetition
  | unknownEscape
  | invalidCharacter
  | invalidFlags
  | invalidGroupName
  | repeatedGroupName
  | lookAround
  | unknownProperty
  | notUnicode
  | nestedTooDeeply
  | tooLarge
  deriving DecidableEq, Repr

def Fault.message : Fault → String
  | unclosedGroup => "unclosed group"
  | unopenedGroup => "unopened group"
  | unclosedClass => "unclosed character class"
  | invalidRange => "invalid range in a character class"
  | nothingToRepeat => "repetition operator without an expression"
  | invalidRepetition => "invalid repetition count"
  | unknownEscape => "unrecognized escape sequence"
  | invalidCharacter => "invalid character number"
  | invalidFlags => "invalid flags"
  | invalidGroupName => "invalid name of a group"
  | repeatedGroupName => "repeated name of a group"
  | lookAround => "look-around is not supported"
  | unknownProperty => "unknown character property"
  | notUnicode => "the pattern can match what is not a text"
  | nestedTooDeeply => "the pattern is nested too deeply"
  | tooLarge => "the pattern is too large"

end Scaffold.Pattern
