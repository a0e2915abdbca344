import Scaffold.Variables

/-!
Blueprints: what a scaffolding document says. A blueprint declares variables and prompts, and its
phases list the steps of a run. The types of prompts, steps, file actions and checks are kept as the
document spells them; whether they are known matters only when they are reached.
-/
namespace Scaffold

namespace Blueprint

structure Metadata where
  name : Option String
  version : Option String
  description : Option String
  deriving DecidableEq, Repr

/-- An option of a prompt: one text, or a label apart from the value. -/
inductive Choice where
  | plain (text : String)
  | labelled (label value : String)
  deriving DecidableEq, Repr

def Choice.label : Choice → String
  | plain text => text
  | labelled label _ => label

def Choice.value : Choice → String
  | plain text => text
  | labelled _ value => value

structure AnswerRule where
  pattern : String
  error : Option String
  deriving DecidableEq, Repr

structure Prompt where
  type : String
  name : String
  message : String
  options : List Choice
  default : Option Value
  rule : Option AnswerRule
  deriving DecidableEq, Repr

/-- A scripted answer: the line to give once a command has printed the question. -/
structure Interaction where
  question : String
  answer : String
  deriving DecidableEq, Repr

inductive Target where
  | single (path : String)
  | move (source destination : String)
  deriving DecidableEq, Repr

structure Check where
  test : String
  path : String
  text : Option String
  deriving DecidableEq, Repr

/-- A step. Its type decides which of the fields are needed. -/
structure Step where
  title : String
  description : Option String
  condition : Option String
  type : String
  command : Option String
  directory : Option String
  isInteractive : Bool
  interactions : List Interaction
  paths : List String
  action : Option String
  target : Option Target
  content : Option String
  find : Option String
  replacement : Option String
  check : Option Check
  deriving DecidableEq, Repr

structure Phase where
  title : String
  description : Option String
  condition : Option String
  steps : List Step
  deriving DecidableEq, Repr

structure Completion where
  message : Option String
  deriving DecidableEq, Repr

end Blueprint

structure Blueprint where
  about : Blueprint.Metadata
  declarations : Std.ExtTreeMap String (Option Value)
  prompts : List Blueprint.Prompt
  phases : List Blueprint.Phase
  completion : Option Blueprint.Completion
  deriving DecidableEq

namespace Blueprint

def empty : Blueprint := ⟨⟨none, none, none⟩, ∅, [], [], none⟩

def stepCount (b : Blueprint) : Nat :=
  (b.phases.flatMap (·.steps)).length

def completionMessage? (b : Blueprint) : Option String :=
  b.completion.bind (·.message)

end Blueprint

end Scaffold
