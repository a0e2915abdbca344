import Scaffold.Shell.Arithmetic
import Scaffold.Shell.Binding

/-!
What the commands of a shell itself have in common: options before their other arguments, and
numbers.
-/
namespace Scaffold.Shell.Act

/-- Reads the letters of one argument as options, of which some take a value: the rest of the
argument, or the one after it. -/
def optionLetters (valued : List Char) (known : List Char) :
    List Char → List String → Act (List (Char × String) × List String)
  | [], args => return ([], args)
  | c :: s, args => do
    if valued.contains c then
      match s, args with
      | [], [] => fail s!"No arg for -{c} option"
      | [], value :: args => return ([(c, value)], args)
      | s, args => return ([(c, String.ofList s)], args)
    else if known.contains c then
      let (os, args) ← optionLetters valued known s args
      return ((c, "") :: os, args)
    else fail s!"Illegal option -{c}"

def options (valued known : String) (args : List String) :
    Act (List (Char × String) × List String) :=
  further args args.length
where
  further : List String → Nat → Act (List (Char × String) × List String)
    | arg :: args, fuel + 1 => do
      match arg.toList with
      | ['-', '-'] => return ([], args)
      | '-' :: c :: s => do
        let (os, args) ← optionLetters valued.toList known.toList (c :: s) args
        let (more, args) ← further args fuel
        return (os ++ more, args)
      | _ => return ([], arg :: args)
    | args, _ => return ([], args)

def largestNumber : Int := Int.pow 2 31 - 1

def number (text : String) : Act Nat := do
  match Arithmetic.whole? (some 10) false text with
  | some n =>
    if 0 ≤ n && n ≤ largestNumber then return n.toNat else fail s!"Illegal number: {text}"
  | none => fail s!"Illegal number: {text}"

/-- A text between quotes, so that a shell reads it as it is. -/
def quoted (text : String) : String :=
  String.join (pieces text.toList text.length)
where
  pieces : List Char → Nat → List String
    | s, 0 => ["'" ++ String.ofList s ++ "'"]
    | s, fuel + 1 =>
      let plain := s.takeWhile (· ≠ '\'')
      let rest := s.drop plain.length
      let quotes := rest.takeWhile (· = '\'')
      let rest := rest.drop quotes.length
      let front := "'" ++ String.ofList plain ++ "'"
      if quotes.isEmpty then [front]
      else
        let marks := "\"" ++ String.ofList quotes ++ "\""
        if rest.isEmpty then [front, marks] else front :: marks :: pieces rest fuel

end Scaffold.Shell.Act
