import Std.Data.ExtTreeMap
import Scaffold.Value

/-!
The variables of a run: a finite map from names to values. Two stores with the same value for every
name are equal.
-/
namespace Scaffold

structure Variables where
  values : Std.ExtTreeMap String Value
  deriving DecidableEq

namespace Variables

def empty : Variables := ⟨∅⟩

instance : EmptyCollection Variables := ⟨empty⟩

def get? (vars : Variables) (name : String) : Option Value :=
  vars.values[name]?

def insert (vars : Variables) (name : String) (value : Value) : Variables :=
  ⟨vars.values.insert name value⟩

/-- Stores answers one after another, so that the last one of a name stays. -/
def merge (vars : Variables) (answers : List (String × Value)) : Variables :=
  answers.foldl (fun vars (name, value) => vars.insert name value) vars

/-- The declared variables that have a value. -/
def seeded (declared : Std.ExtTreeMap String (Option Value)) : Variables :=
  ⟨declared.filterMap fun _ value => value⟩

/-- A missing variable is false. -/
def isTruthy (vars : Variables) (name : String) : Bool :=
  (vars.get? name).any Value.isTruthy

@[simp] theorem get?_empty (name : String) : (∅ : Variables).get? name = none :=
  Std.ExtTreeMap.getElem?_empty

theorem get?_insert (vars : Variables) (name other : String) (value : Value) :
    (vars.insert name value).get? other = if name = other then some value else vars.get? other := by
  simp [get?, insert, Std.ExtTreeMap.getElem?_insert]

theorem get?_seeded (declared : Std.ExtTreeMap String (Option Value)) (name : String) :
    (seeded declared).get? name = declared[name]?.join := by
  simp only [get?, seeded, Std.ExtTreeMap.getElem?_filterMap']
  rfl

end Variables

end Scaffold
