/-!
Scripts of a shell: words with their expansions, redirections and commands.
-/
namespace Scaffold.Shell

inductive Change where
  | keep
  | default
  | assign
  | alternative
  | demand
  | length
  | dropStart (longest : Bool)
  | dropEnd (longest : Bool)
  /-- Something that is no change, which is only found out when it is to be made. -/
  | unknown
  deriving DecidableEq, Repr

inductive Opening where
  | read
  /-- The file is emptied; one that may not be is only kept from a plain redirection. -/
  | write (isForced : Bool)
  | append
  | both
  deriving DecidableEq, Repr

mutual

inductive Part where
  | literal (text : List Char) (isQuoted : Bool)
  /-- A parameter; `orEmpty` says whether an empty value counts as missing. -/
  | parameter (name : String) (change : Change) (orEmpty : Bool) (word : List Part)
      (isQuoted : Bool)
  | output (script : Script) (isQuoted : Bool)
  | arithmetic (expression : List Part) (isQuoted : Bool)

inductive Redirection where
  | file (stream : Nat) (opening : Opening) (target : List Part)
  | same (stream : Nat) (target : List Part)
  /-- The number of a document that stands in the script itself. -/
  | document (stream : Nat) (number : Nat)

inductive Script where
  | simple (line : Nat) (assignments : List (String × List Part)) (words : List (List Part))
      (redirections : List Redirection)
  | redirected (line : Nat) (body : Script) (redirections : List Redirection)
  | subshell (line : Nat) (body : Script) (redirections : List Redirection)
  | background (line : Nat) (body : Script)
  | pipeline (commands : List Script)
  | negated (body : Script)
  | both (first second : Script)
  | either (first second : Script)
  | sequence (first second : Script)
  | conditional (test yes no : Script)
  | loop (isUntil : Bool) (test body : Script)
  | forEach (line : Nat) (name : String) (words : List (List Part)) (body : Script)
  | select (line : Nat) (word : List Part) (cases : List (List (List Part) × Script))
  | function (line : Nat) (name : String) (body : Script)
  | nothing

end

abbrev Word := List Part

namespace Word

def plain? : Word → Option (List Char)
  | [.literal text false] => some text
  | _ => none

def allArguments : Word := [.parameter "@" .keep false [] true]

end Word

structure Document where
  number : Nat
  text : Word

end Scaffold.Shell
