import Scaffold.Shell.Builtin.Options
import Scaffold.Shell.Condition

/-!
The commands of a shell that test conditions.
-/
namespace Scaffold.Shell.Builtin

open Act

def test (args : List String) : Act Nat := do
  let m ← get
  match Condition.holds ⟨m.commons.files, m.own.directory⟩ args (args.length + 1) with
  | .ok b => ofBool b
  | .error f => fail f.message

def bracket (args : List String) : Act Nat := do
  if args.getLast? = some "]" then test args.dropLast else fail "missing ]"

end Scaffold.Shell.Builtin
