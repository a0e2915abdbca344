import Scaffold.Shell.Expansion
import Scaffold.Shell.Lookup

/-!
What the words of a simple command call.
-/
namespace Scaffold.Shell

structure Callee where
  words : List String
  meansFunctions : Bool
  /-- Whether a misuse of the command ends the shell, and its assignments stay. -/
  isSpecial : Bool

namespace Callee

def called? : List String → Option (List String)
  | [] => none
  | word :: words =>
    match word.toList with
    | ['-'] => some (word :: words)
    | ['-', '-'] => if words.isEmpty then none else some words
    | '-' :: letters => if letters.all (· = 'p') then called? words else none
    | _ => some (word :: words)

def innermost : List String → Nat → List String
  | words, 0 => words
  | words, fuel + 1 =>
    match words with
    | "command" :: rest =>
      match called? rest with
      | some inner => innermost inner fuel
      | none => words
    | words => words

def ofWords (words : List String) : Callee :=
  let inner := innermost words words.length
  let isDirect := words.head? ≠ some "command"
  { words := inner
    meansFunctions := inner.length = words.length
    isSpecial := isDirect && words.head?.any Lookup.isSpecial }

def takesAssignments (words : List String) : Bool :=
  (ofWords words).words.head?.any Lookup.takesAssignments

/-- The texts of words; those that look like assignments are one text each for some commands. -/
def texts (run : Expansion.Runner) (done : List String) : List Word → Act (List String)
  | [] => return done
  | w :: ws => do
    let setting? := if takesAssignments done then Reading.assignment? w else none
    let more ← match setting? with
      | some (name, value) => pure [name ++ "=" ++ (← Expansion.value run value)]
      | none => Expansion.word run w
    texts run (done ++ more) ws

end Callee

end Scaffold.Shell
