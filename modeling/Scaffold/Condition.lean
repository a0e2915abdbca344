import Scaffold.Text.Blank
import Scaffold.Text.Search
import Scaffold.Text.Word
import Scaffold.Variables
import Scaffold.Warned

/-!
Conditions on variables. There are three forms: `name == 'literal'` (or with double quotes), `name`
and `!name`, where a name is a run of word characters. Any other text is kept as it is and is false.
-/
namespace Scaffold

open Text

inductive Condition where
  | equality (name literal : String)
  | truthy (name : String)
  | falsy (name : String)
  | unrecognized (text : String)
  deriving DecidableEq, Repr

namespace Condition

def name? (s : List Char) : Option String :=
  if !s.isEmpty && s.all isWord then some (String.ofList s) else none

/-- The text between two quotes that enclose all of `s`. -/
def literal? : List Char → Option String
  | [] => none
  | quote :: s =>
    if quote = '\'' || quote = '"' then
      let inside := s.takeWhile (· ≠ quote)
      if s.dropWhile (· ≠ quote) = [quote] then some (String.ofList inside) else none
    else none

def equality? (s : List Char) : Option Condition := do
  let name ← name? (s.takeWhile isWord)
  let after ← dropStart? ['=', '='] (trimStart (s.dropWhile isWord))
  let literal ← literal? (trimStart after)
  return equality name literal

def falsy? : List Char → Option Condition
  | '!' :: s => (name? (trimStart s)).map falsy
  | _ => none

def ofTrimmed (s : List Char) : Condition :=
  (equality? s <|> (name? s).map truthy <|> falsy? s).getD (unrecognized (String.ofList s))

def parse (text : String) : Condition :=
  ofTrimmed (trim text.toList)

def braced? (s : List Char) : Option (List Char) := do
  let s ← dropStart? ['{', '{'] s
  let inside ← dropStart? ['}', '}'] s.reverse
  return inside.reverse

/-- Reads a condition that may stand in double braces. -/
def parseWhen (text : String) : Condition :=
  let s := trim text.toList
  ofTrimmed (trim ((braced? s).getD s))

def holds (vars : Variables) : Condition → Bool
  | equality name literal => (vars.get? name).any fun value => value.display = literal
  | truthy name => vars.isTruthy name
  | falsy name => !vars.isTruthy name
  | unrecognized _ => false

def warnings : Condition → List Warning
  | unrecognized text => [.unrecognizedCondition text]
  | _ => []

def evaluate (vars : Variables) (c : Condition) : Warned Bool :=
  ⟨c.holds vars, c.warnings⟩

end Condition

end Scaffold
