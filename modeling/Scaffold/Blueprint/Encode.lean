import Scaffold.Blueprint.Basic
import Scaffold.Document.Tree

/-!
Writing blueprints as document trees. What is missing or empty is left out, except for the sections
of a document, titles and types. How a value is written is a parameter.
-/
namespace Scaffold.Blueprint

open Document

/-- A field of a record, unless its value is missing. -/
def field (name : String) (value : Option Tree) : List (String × Tree) :=
  (value.map (name, ·)).toList

def textField (name : String) (value : Option String) : List (String × Tree) :=
  field name (value.map .text)

def listField (name : String) (items : List Tree) : List (String × Tree) :=
  if items.isEmpty then [] else [(name, .list items)]

def Metadata.toTree (m : Metadata) : Tree := .ofFields <|
  textField "name" m.name ++ textField "version" m.version ++
    textField "description" m.description

def Choice.toTree : Choice → Tree
  | plain text => .text text
  | labelled label value => .ofFields [("label", .text label), ("value", .text value)]

def AnswerRule.toTree (r : AnswerRule) : Tree := .ofFields <|
  [("regex", .text r.pattern)] ++ textField "error" r.error

def Prompt.toTree (ofValue : Value → Tree) (p : Prompt) : Tree := .ofFields <|
  [("type", .text p.type), ("name", .text p.name), ("message", .text p.message)] ++
    listField "options" (p.options.map Choice.toTree) ++
    field "default" (p.default.map ofValue) ++ field "validate" (p.rule.map AnswerRule.toTree)

def Interaction.toTree (i : Interaction) : Tree :=
  .ofFields [("question", .text i.question), ("answer", .text i.answer)]

def Target.toTree : Target → Tree
  | single path => .text path
  | move source destination => .ofFields [("from", .text source), ("to", .text destination)]

def Check.toTree (c : Check) : Tree := .ofFields <|
  [("test", .text c.test), ("path", .text c.path)] ++ textField "text" c.text

def Step.toTree (s : Step) : Tree := .ofFields <|
  [("title", .text s.title)] ++ textField "description" s.description ++
    textField "when" s.condition ++ [("type", .text s.type)] ++ textField "cmd" s.command ++
    textField "cwd" s.directory ++
    field "haveInteraction" (if s.isInteractive then some (.flag true) else none) ++
    listField "interactions" (s.interactions.map Interaction.toTree) ++
    listField "paths" (s.paths.map .text) ++ textField "action" s.action ++
    field "path" (s.target.map Target.toTree) ++ textField "content" s.content ++
    textField "find" s.find ++ textField "replace" s.replacement ++
    field "validate" (s.check.map Check.toTree)

def Phase.toTree (p : Phase) : Tree := .ofFields <|
  [("title", .text p.title)] ++ textField "description" p.description ++
    textField "when" p.condition ++ [("steps", .list (p.steps.map Step.toTree))]

def Completion.toTree (c : Completion) : Tree := .ofFields (textField "message" c.message)

/-- The declared variables, in the order of their names; one without a value is null. -/
def variablesTree (ofValue : Value → Tree) (vars : Std.ExtTreeMap String (Option Value)) : Tree :=
  .ofFields (vars.toList.map fun (name, value) => (name, (value.map ofValue).getD .null))

def toTree (ofValue : Value → Tree) (b : Blueprint) : Tree :=
  .ofFields <|
    [("meta", b.about.toTree),
      ("config", .ofFields <|
        (if b.declarations.isEmpty then [] else
          [("variables", variablesTree ofValue b.declarations)]) ++
        listField "prompts" (b.prompts.map (Prompt.toTree ofValue))),
      ("workflow", .ofFields [("phases", .list (b.phases.map Phase.toTree))])] ++
    field "afterPhases" (b.completion.map Completion.toTree)

end Scaffold.Blueprint
