import Scaffold.Shell.Cursor
import Scaffold.Shell.Stream

/-!
The variables and the arguments of a shell.
-/
namespace Scaffold.Shell

namespace Variable

def unset : Variable := ⟨none, false, false⟩

end Variable

namespace Act

def optionName : String := "OPTIND"

def binding? (name : String) : Act (Option Variable) := return (← own).bindings[name]?

def value? (name : String) : Act (Option String) := return (← binding? name).bind (·.value)

def valueOr (name standard : String) : Act String := return (← value? name).getD standard

def putVariable (name : String) (v : Variable) : Act Unit :=
  modifyOwn fun p => { p with bindings := p.bindings.insert name v }

def checkWritable (name : String) : Act Unit := do
  if (← binding? name).any (·.isReadOnly) then fail s!"{name}: is read only"

def setVariable (name : String) (value : Option String) : Act Unit := do
  if !Token.isName name.toList then fail s!"{name}: bad variable name"
  checkWritable name
  let isExported ← isSet 'a'
  let v := (← binding? name).getD .unset
  putVariable name { v with
    value := value, isExported := v.isExported || (isExported && value.isSome) }
  if name = optionName then
    let index := max 1 ((value.bind String.toNat?).getD 1)
    modifyOwn fun p => { p with optionIndex := index, optionOffset := 0 }

def unsetVariable (name : String) : Act Unit := do
  checkWritable name
  modifyOwn fun p => { p with bindings := p.bindings.erase name }

/-- Makes a variable local to the innermost function or command that has variables of its own. -/
def hide (name : String) : Act Unit := do
  let v ← binding? name
  modifyOwn fun p =>
    match p.hidden with
    | frame :: frames =>
      if frame.any (·.1 = name) then p else { p with hidden := ((name, v) :: frame) :: frames }
    | [] => p

def withLocals (act : Act α) : Act α := do
  modifyOwn fun p => { p with hidden := [] :: p.hidden }
  let depth := (← own).hidden.length
  let restore : Act Unit := modifyOwn fun p =>
    let frames := p.hidden.drop (p.hidden.length - depth)
    let bindings := (frames.headD []).foldl (fun vs (name, v) =>
      match v with
      | some v => vs.insert name v
      | none => vs.erase name) p.bindings
    { p with hidden := frames.drop 1, bindings := bindings }
  let a ← try act catch stop => do
    restore
    throw stop
  restore
  return a

def environment : Act (List (String × String)) := do
  return (← own).bindings.toList.filterMap fun (name, v) =>
    if v.isExported then v.value.map fun value => (name, value) else none

def parameter? (name : String) : Act (Option String) := do
  let p ← own
  match name with
  | "?" => return some (toString p.status)
  | "$" => return some (toString p.number)
  | "#" => return some (toString p.arguments.length)
  | "-" => return some (String.ofList p.settings.reverse)
  | "!" => return p.jobs.head?.map fun j => toString j.number
  | "0" => return some p.name
  | name =>
    if name.toList.all Char.isDigit then return p.arguments[name.toNat?.getD 0 - 1]?
    else value? name

end Act

end Scaffold.Shell
