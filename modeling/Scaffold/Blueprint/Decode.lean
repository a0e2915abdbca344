import Scaffold.Blueprint.Basic
import Scaffold.Document.Reader

/-!
Reading blueprints from document trees.
-/
namespace Scaffold.Blueprint

open Document Document.Fields

def scalarValue? (s : Setting) (t : Tree) : Option Value :=
  match (s.target t).atom? with
  | some (.flag b) => some (.flag b)
  | some (.integer n) => some (.number (.ofInt n))
  | some (.number x) => some (.number x)
  | some (.text text) => some (.text text)
  | _ => none

def readValue : Reader Value := .oneOf "Value" scalarValue?

def Choice.read : Reader Choice :=
  .oneOf "PromptChoice" fun s t =>
    (textAtom? s t).map plain <|>
      (pair? "label" "value" s t).map fun (label, value) => labelled label value

def Target.read : Reader Target :=
  .oneOf "FilePath" fun s t =>
    (textAtom? s t).map single <|>
      (pair? "from" "to" s t).map fun (source, destination) => move source destination

def Metadata.read : Reader Metadata := record <|
  mk <$> maybe "name" .text <*> maybe "version" .text <*> maybe "description" .text

def AnswerRule.read : Reader AnswerRule := record <|
  mk <$> required "regex" .text <*> maybe "error" .text

def Prompt.read : Reader Prompt := record <|
  mk <$> withDefault "type" "input" .text <*> required "name" .text <*> required "message" .text
    <*> withDefault "options" [] (.list Choice.read) <*> maybe "default" readValue
    <*> maybe "validate" AnswerRule.read

def Interaction.read : Reader Interaction := record <|
  mk <$> required "question" .text <*> required "answer" .text

def Check.read : Reader Check := record <|
  mk <$> required "test" .text <*> required "path" .text <*> maybe "text" .text

def Step.read : Reader Step := record <|
  mk <$> withDefault "title" "" .text <*> maybe "description" .text <*> maybe "when" .text
    <*> withDefault "type" "" .text <*> maybe "cmd" .text <*> maybe "cwd" .text
    <*> withDefault "haveInteraction" false .flag
    <*> withDefault "interactions" [] (.list Interaction.read)
    <*> withDefault "paths" [] (.list .text) <*> maybe "action" .text
    <*> maybe "path" Target.read <*> maybe "content" .text <*> maybe "find" .text
    <*> maybe "replace" .text <*> maybe "validate" Check.read

def Phase.read : Reader Phase := record <|
  mk <$> withDefault "title" "" .text <*> maybe "description" .text <*> maybe "when" .text
    <*> withDefault "steps" [] (.list Step.read)

def Completion.read : Reader Completion := record <|
  mk <$> maybe "message" .text

/-- The section that declares variables and prompts. -/
def readDeclarations : Reader (Std.ExtTreeMap String (Option Value) × List Prompt) := record <|
  Prod.mk <$> withDefault "variables" ∅ (.map (.optional readValue))
    <*> withDefault "prompts" [] (.list Prompt.read)

/-- The section that holds the phases. -/
def readWorkflow : Reader (List Phase) := record <|
  id <$> withDefault "phases" [] (.list Phase.read)

def read : Reader Blueprint := record <|
  (fun about (declarations, prompts) phases completion =>
      ⟨about, declarations, prompts, phases, completion⟩)
    <$> withDefault "meta" empty.about Metadata.read
    <*> withDefault "config" (∅, []) readDeclarations
    <*> withDefault "workflow" [] readWorkflow <*> maybe "afterPhases" Completion.read

end Scaffold.Blueprint
