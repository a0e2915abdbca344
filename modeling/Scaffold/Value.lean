import Scaffold.Number.Shortest

/-!
Values of variables: a flag, a number or a text. Every value has a display text, which templates
insert and conditions compare, and a truth value.
-/
namespace Scaffold

inductive Value where
  | flag (b : Bool)
  | number (x : Binary64)
  | text (s : String)
  deriving DecidableEq, Repr

namespace Value

/-- Integers below this size are shown as integers, so that zero has no sign. -/
def wholeLimit : Nat := Nat.pow 10 15

def display : Value → String
  | flag true => "true"
  | flag false => "false"
  | number x =>
    match x.whole? with
    | some n => if n.natAbs < wholeLimit then toString n else x.text
    | none => x.text
  | text s => s

/-- False for `false`, a zero, what is no number, and the texts that are empty or say so. -/
def isTruthy : Value → Bool
  | flag b => b
  | number x => !x.isZero && !x.isNaN
  | text s => !(s = "" || s = "false" || s = "none")

end Value

end Scaffold
