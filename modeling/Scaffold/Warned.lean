/-!
Warnings about the text of a document, and results that carry the warnings raised on the way to
them, in order.
-/
namespace Scaffold

inductive Warning where
  | undefinedVariable (name : String)
  | unrecognizedCondition (text : String)
  deriving DecidableEq, Repr

def Warning.message : Warning → String
  | undefinedVariable name => s!"Variable '{name}' is not defined, leaving it unresolved"
  | unrecognizedCondition text => s!"Unrecognized condition '{text}', treating as false"

structure Warned (α : Type) where
  value : α
  warnings : List Warning
  deriving DecidableEq, Repr

namespace Warned

instance : Monad Warned where
  pure value := ⟨value, []⟩
  bind first next :=
    let second := next first.value
    ⟨second.value, first.warnings ++ second.warnings⟩

@[ext] theorem ext {x y : Warned α} (value : x.value = y.value)
    (warnings : x.warnings = y.warnings) : x = y := by
  cases x; cases y; simp_all

instance : LawfulMonad Warned := LawfulMonad.mk' Warned
  (fun _ => by ext1 <;> simp [Functor.map])
  (fun _ _ => by ext1 <;> simp [pure, bind])
  (fun _ _ _ => by ext1 <;> simp [bind])

def warn (warning : Warning) : Warned Unit := ⟨(), [warning]⟩

end Warned

end Scaffold
