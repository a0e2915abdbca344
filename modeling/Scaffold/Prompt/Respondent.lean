import Scaffold.Prompt.Question

/-!
Those who answer questions: a script, the environment of a run without an operator, and a terminal
that is none.
-/
namespace Scaffold

/-- Answers by the keys of questions. A queue gives its answers one after another; once it is empty
the fixed response counts. -/
structure Script where
  responses : Std.ExtTreeMap String String
  queues : Std.ExtTreeMap String (List String)

def Script.take (s : Script) (key : String) : Option String × Script :=
  match s.queues[key]? with
  | some (answer :: rest) => (some answer, { s with queues := s.queues.insert key rest })
  | _ => (s.responses[key]?, s)

inductive Respondent where
  | script (s : Script)
  | environment (overrides : Std.ExtTreeMap String String)
  | terminal

namespace Respondent

def settingPrefix : String := "KILN_PROMPT_"

def settingName (key : String) : String :=
  settingPrefix ++
    String.ofList (key.toList.map fun c => if c.isAlphanum then c.toUpper else '_')

def refusal (q : Question) : Error :=
  match q.kind with
  | .select [] => .invalidConfiguration (.noOptions q.key)
  | _ => .system .notATerminal

def ask (r : Respondent) (q : Question) : Except Error Answer × Respondent :=
  match r with
  | script s =>
    let (reply, s) := s.take q.key
    (q.answer ((reply <|> q.default).getD ""), script s)
  | environment overrides =>
    match overrides[settingName q.key]? <|> q.default with
    | some s => (q.answer s, r)
    | none => (throw (.invalidConfiguration (.cannotAsk q.key (settingName q.key))), r)
  | terminal => (throw (refusal q), r)

def isScript : Respondent → Bool
  | script _ => true
  | _ => false

end Respondent

end Scaffold
