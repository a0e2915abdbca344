import Scaffold.Blueprint.Basic
import Scaffold.Error
import Scaffold.Pattern.Match
import Scaffold.Template
import Scaffold.Text.Lowercase

/-!
Questions to an operator and their answers. An answer is read from a text by the kind of its
question and has a text of its own again.
-/
namespace Scaffold

structure QuestionOption where
  label : String
  value : String
  deriving DecidableEq, Repr

inductive QuestionKind where
  | input
  | password
  | confirm
  | select (options : List QuestionOption)
  | multiselect (options : List QuestionOption)
  deriving DecidableEq, Repr

structure QuestionRule where
  source : String
  pattern : Pattern
  error : String

structure Question where
  key : String
  text : String
  kind : QuestionKind
  default : Option String
  rule : Option QuestionRule

inductive Answer where
  | flag (b : Bool)
  | text (s : String)
  | texts (ss : List String)
  deriving DecidableEq, Repr

namespace Answer

def display : Answer → String
  | flag true => "true"
  | flag false => "false"
  | text s => s
  | texts ss => String.intercalate "," ss

def value : Answer → Value
  | flag b => .flag b
  | text s => .text s
  | texts ss => .text (String.intercalate "," ss)

/-- The texts between commas, without the white space around them. -/
def splitList (s : String) : List String :=
  (Text.pieces ',' s.toList).map fun piece => String.ofList (Text.trim piece)

def isYes (s : String) : Bool :=
  ["true", "yes", "y", "1"].contains (Text.lowercase (Text.trimmed s))

def ofText (kind : QuestionKind) (s : String) : Answer :=
  match kind with
  | .confirm => flag (isYes s)
  | .multiselect _ => texts (if (Text.trimmed s).isEmpty then [] else splitList s)
  | _ => text s

end Answer

namespace Question

def complaint? (q : Question) (s : String) : Option String :=
  q.rule.bind fun r => if r.pattern.isMatch s then none else some r.error

def answer (q : Question) (s : String) : Except Error Answer :=
  match q.complaint? s with
  | some error => throw (.invalidConfiguration (.refusedAnswer q.key error))
  | none => return .ofText q.kind s

/-! Questions from the prompts of a blueprint. -/

def defaultComplaint : String := "Invalid input"

def options (p : Blueprint.Prompt) : List QuestionOption :=
  p.options.map fun c => ⟨c.label, c.value⟩

def kindOf (p : Blueprint.Prompt) : Except Error QuestionKind :=
  match Text.lowercase p.type with
  | "input" | "text" => return .input
  | "password" => return .password
  | "confirm" => return .confirm
  | "select" | "list" => return .select (options p)
  | "multiselect" | "checkbox" => return .multiselect (options p)
  | type => throw (.invalidConfiguration (.unknownPromptType p.name type))

def ruleOf (p : Blueprint.Prompt) : Except Error (Option QuestionRule) :=
  match p.rule with
  | none => return none
  | some r =>
    match Pattern.parse r.pattern with
    | .ok pattern => return some ⟨r.pattern, pattern, r.error.getD defaultComplaint⟩
    | .error f => throw (.invalidConfiguration (.invalidPromptPattern p.name r.pattern f))

/-- Texts as defaults are templates; other values are shown as they are. -/
def defaultOf (vars : Variables) : Value → Warned String
  | .text s => Template.resolve vars s
  | v => pure v.display

def ofPrompt (vars : Variables) (p : Blueprint.Prompt) : ExceptT Error Warned Question := do
  let kind ← liftM (kindOf p)
  let rule ← liftM (ruleOf p)
  let text ← liftM (Template.resolve vars p.message)
  let default ← p.default.mapM fun v => liftM (defaultOf vars v)
  return ⟨p.name, text, kind, default, rule⟩

end Question

end Scaffold
