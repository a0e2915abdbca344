import Scaffold.Shell.Expansion

/-!
Redirections whose targets are known.
-/
namespace Scaffold.Shell

inductive Aim where
  | file (stream : Nat) (opening : Opening) (path : String)
  /-- The stream that is copied, or none when a stream is closed. -/
  | same (stream : Nat) (source : Option Nat)
  | text (stream : Nat) (content : String)

namespace Aim

def source? (target : String) : Act (Option Nat) := do
  match target.toList with
  | ['-'] => return none
  | [d] => if d.isDigit then return some (d.toNat - '0'.toNat) else Act.fail badNumber
  | _ => Act.fail badNumber
where
  badNumber : String := "Syntax error: Bad fd number"

def ofRedirection (run : Expansion.Runner) : Redirection → Act Aim
  | .file stream opening target => return .file stream opening (← Expansion.text run target)
  | .same stream target => return .same stream (← source? (← Expansion.text run target))
  | .document stream number => do
    let text := ((← Act.own).documents.find? (·.number = number)).elim [] (·.text)
    return .text stream (← Expansion.plainText run text)

def take : Aim → Act Bool
  | .file stream opening path => Act.redirectToFile stream opening path
  | .same stream source => Act.redirectToStream stream source
  | .text stream content => do
    Act.redirectToText stream content
    return true

/-- Takes redirections up to the first one that is not possible. -/
def takeAll (aims : List Aim) : Act Bool := aims.allM take

end Aim

end Scaffold.Shell
