import Scaffold.Blueprint.Load
import Scaffold.Proofs.Document.PairRevision
import Scaffold.Proofs.Document.RecordRevision

/-! Documents that say the same. Neither the order of keys matters to a blueprint nor a key that none of
its parts knows, but for one thing: options and targets of two forms are looked through as a whole before
their form is known, so that what is added to them must not go deeper than the reader does. -/
namespace Scaffold.Blueprint

open Document

/-! What each part of a blueprint may be revised to. -/

section Revisions

variable (fits : Nat → Tree → Prop)

def Choice.revision : Revision := .pair "label" "value" fits

def Target.revision : Revision := .pair "from" "to" fits

def Metadata.revision : Revision :=
  .record [("name", .leaf), ("version", .leaf), ("description", .leaf)]

def AnswerRule.revision : Revision := .record [("regex", .leaf), ("error", .leaf)]

def Prompt.revision : Revision :=
  .record [("type", .leaf), ("name", .leaf), ("message", .leaf),
    ("options", .list (Choice.revision fits)), ("default", .leaf), ("validate", AnswerRule.revision)]

def Interaction.revision : Revision := .record [("question", .leaf), ("answer", .leaf)]

def Check.revision : Revision := .record [("test", .leaf), ("path", .leaf), ("text", .leaf)]

def Step.revision : Revision :=
  .record [("title", .leaf), ("description", .leaf), ("when", .leaf), ("type", .leaf), ("cmd", .leaf),
    ("cwd", .leaf), ("haveInteraction", .leaf), ("interactions", .list Interaction.revision),
    ("paths", .list .leaf), ("action", .leaf), ("path", Target.revision fits), ("content", .leaf),
    ("find", .leaf), ("replace", .leaf), ("validate", Check.revision)]

def Phase.revision : Revision :=
  .record [("title", .leaf), ("description", .leaf), ("when", .leaf),
    ("steps", .list (Step.revision fits))]

def Completion.revision : Revision := .record [("message", .leaf)]

def declarationsRevision : Revision :=
  .record [("variables", .map .leaf), ("prompts", .list (Prompt.revision fits))]

def workflowRevision : Revision := .record [("phases", .list (Phase.revision fits))]

/-- A document with other keys and orders. Every record may get keys that are none of its fields'
names, and all entries but those of variables may be added to. -/
def revision : Revision :=
  .record [("meta", Metadata.revision), ("config", declarationsRevision fits),
    ("workflow", workflowRevision fits), ("afterPhases", Completion.revision)]

end Revisions

/-! The readers do not see them. -/

theorem respects_readValue : Respects readValue .leaf :=
  .oneOf_leaf (fun _ _ _ => rfl) (fun _ _ => rfl) fun _ _ => rfl

theorem Metadata.respects : Respects Metadata.read Metadata.revision :=
  .record (((Follows.maybe "name" .text).map mk).seq (.maybe "version" .text)
    |>.seq (.maybe "description" .text)) (by decide)

theorem AnswerRule.respects : Respects AnswerRule.read AnswerRule.revision :=
  .record (((Follows.required "regex" .text).map mk).seq (.maybe "error" .text)) (by decide)

theorem Interaction.respects : Respects Interaction.read Interaction.revision :=
  .record (((Follows.required "question" .text).map mk).seq (.required "answer" .text)) (by decide)

theorem Check.respects : Respects Check.read Check.revision :=
  .record (((Follows.required "test" .text).map mk).seq (.required "path" .text)
    |>.seq (.maybe "text" .text)) (by decide)

theorem Completion.respects : Respects Completion.read Completion.revision :=
  .record ((Follows.maybe "message" .text).map mk) (by decide)

section Parts

variable {fits : Nat → Tree → Prop} (shallow : ∀ room t, fits room t → t.nesting < room)
include shallow

theorem Choice.respects : Respects Choice.read (Choice.revision fits) := .pair (by decide) shallow

theorem Target.respects : Respects Target.read (Target.revision fits) := .pair (by decide) shallow

theorem Prompt.respects : Respects Prompt.read (Prompt.revision fits) :=
  .record (((Follows.withDefault "type" "input" .text).map mk).seq (.required "name" .text)
    |>.seq (.required "message" .text)
    |>.seq (.withDefault "options" [] (Choice.respects shallow).list)
    |>.seq (.maybe "default" respects_readValue)
    |>.seq (.maybe "validate" AnswerRule.respects)) (by decide)

theorem Step.respects : Respects Step.read (Step.revision fits) :=
  .record (((Follows.withDefault "title" "" .text).map mk).seq (.maybe "description" .text)
    |>.seq (.maybe "when" .text)
    |>.seq (.withDefault "type" "" .text)
    |>.seq (.maybe "cmd" .text)
    |>.seq (.maybe "cwd" .text)
    |>.seq (.withDefault "haveInteraction" false .flag)
    |>.seq (.withDefault "interactions" [] Interaction.respects.list)
    |>.seq (.withDefault "paths" [] Respects.text.list)
    |>.seq (.maybe "action" .text)
    |>.seq (.maybe "path" (Target.respects shallow))
    |>.seq (.maybe "content" .text)
    |>.seq (.maybe "find" .text)
    |>.seq (.maybe "replace" .text)
    |>.seq (.maybe "validate" Check.respects)) (by decide)

theorem Phase.respects : Respects Phase.read (Phase.revision fits) :=
  .record (((Follows.withDefault "title" "" .text).map mk).seq (.maybe "description" .text)
    |>.seq (.maybe "when" .text)
    |>.seq (.withDefault "steps" [] (Step.respects shallow).list)) (by decide)

theorem respects_readDeclarations : Respects readDeclarations (declarationsRevision fits) :=
  .record (((Follows.withDefault "variables" ∅ respects_readValue.optional.map).map Prod.mk)
    |>.seq (.withDefault "prompts" [] (Prompt.respects shallow).list)) (by decide)

theorem respects_readWorkflow : Respects readWorkflow (workflowRevision fits) :=
  .record ((Follows.withDefault "phases" [] (Phase.respects shallow).list).map id) (by decide)

theorem respects_read : Respects read (revision fits) :=
  .record (((Follows.withDefault "meta" empty.about Metadata.respects).map _)
    |>.seq (.withDefault "config" (∅, []) (respects_readDeclarations shallow))
    |>.seq (.withDefault "workflow" [] (respects_readWorkflow shallow))
    |>.seq (.maybe "afterPhases" Completion.respects)) (by decide)

end Parts

/-- A value of a record that can be entered with so many levels left. -/
def IsShallow (room : Nat) (t : Tree) : Prop := t.nesting < room

/-- A document in JSON that is read as a blueprint is read as the same blueprint when the keys of its
records are put into another order and when records, other than that of the variables, get keys that they
do not know: with any value, but that a value in an option of two texts or in the two ends of a move has to
lie within the levels that the reader goes down. -/
theorem ofSource_revised {t t' : Tree} {b : Blueprint} (json : t.IsJson)
    (revised : revision IsShallow Format.json.room t t') (read : ofSource .json ⟨t, #[], true⟩ = .ok b) :
    ofSource .json ⟨t', #[], true⟩ = .ok b := by
  let s := Format.json.setting ⟨t, #[], true⟩
  have carries := (respects_read fun _ _ fit => fit).carries s (100 * t'.size) json revised
  rw [ofSource] at read ⊢
  rcases done : (Blueprint.read s t).run 0 with ⟨e | c, m⟩
  · have run : Reader.run Blueprint.read s t = .error e := congrArg Prod.fst done
    rw [show Format.json.setting ⟨t, #[], true⟩ = s from rfl, run] at read
    cases read
  · have run : Reader.run Blueprint.read s t = .ok c := congrArg Prod.fst done
    rw [show Format.json.setting ⟨t, #[], true⟩ = s from rfl, run] at read
    cases read
    have run' : Reader.run Blueprint.read (Format.json.setting ⟨t', #[], true⟩) t' = .ok b :=
      congrArg Prod.fst ((carries 0 b m done).2 0 (Nat.zero_le _))
    rw [run']
    rfl

/-! A document with one option. -/

/-- A value with so many levels. -/
def nested : Nat → Tree
  | 0 => .null
  | n + 1 => .list [nested n]

theorem isJson_nested (n : Nat) : (nested n).IsJson := by
  induction n with
  | zero => exact .atom _
  | succ n ih =>
    refine .list fun t member => ?_
    rw [List.mem_singleton.mp member]
    exact ih

/-- A prompt whose only option has these fields. -/
def promptWith (option : List (String × Tree)) : Tree :=
  .ofFields [("name", .text "kind"), ("message", .text "Kind?"), ("options", .list [.ofFields option])]

def documentWith (option : List (String × Tree)) : Tree :=
  .ofFields [("config", .ofFields [("prompts", .list [promptWith option])])]

def labelled : List (String × Tree) := [("label", .text "A"), ("value", .text "a")]

/-- The option with its keys in the other order, and another key in between. -/
def noted (note : Tree) : List (String × Tree) :=
  [("value", .text "a"), ("note", note), ("label", .text "A")]

theorem isJson_labelled : (documentWith labelled).IsJson := by
  have text (value : String) : (Tree.text value).IsJson := .atom _
  have single {t : Tree} (json : t.IsJson) : (Tree.list [t]).IsJson := .list (by simpa using json)
  have field {name : String} {t : Tree} (json : t.IsJson) : (Tree.ofFields [(name, t)]).IsJson :=
    .record (List.nodup_singleton name) (by simpa using json)
  have option : (Tree.ofFields labelled).IsJson := .record (by decide) (by simp [labelled, text])
  have prompt : (promptWith labelled).IsJson := .record (by decide) (by simp [text, single option])
  exact field (field (single prompt))

theorem rearranged_noted {changed : String → Tree → Tree → Prop} {added : String × Tree → Prop} {note : Tree}
    (same : ∀ name t, changed name t t) (extra : added ("note", note)) :
    Tree.Rearranged changed added labelled (noted note) := by
  refine ⟨labelled, [("note", note)], ?_, by simpa using extra, ?_⟩
  · exact .cons ⟨rfl, same _ _⟩ (.cons ⟨rfl, same _ _⟩ .nil)
  · have moved : ([("label", Tree.text "A")] ++ [("value", Tree.text "a"), ("note", note)]).Perm
        ([("value", Tree.text "a"), ("note", note)] ++ [("label", Tree.text "A")]) := List.perm_append_comm
    exact moved

/-- The option lies five levels down. -/
theorem revision_noted {fits : Nat → Tree → Prop} {note : Tree} (json : note.IsJson) (fit : fits 122 note) :
    revision fits Format.json.room (documentWith labelled) (documentWith (noted note)) := by
  have option : Choice.revision fits 122 (.ofFields labelled) (.ofFields (noted note)) :=
    .fields (rearranged_noted (fun _ => .same) ⟨by simp, json, fit⟩)
  have same (cs : List (String × Revision)) {room : Nat} {name value : String}
      (distinct : (cs.map Prod.fst).Nodup) (member : (name, Revision.leaf) ∈ cs) :
      Revision.ofKey cs room name (.text value) (.text value) := .of_mem distinct member (.same _)
  have prompt : Prompt.revision fits 124 (promptWith labelled) (promptWith (noted note)) := by
    refine .fields (.of_forall₂ (.cons ⟨rfl, same _ (by simp) (by simp)⟩
      (.cons ⟨rfl, same _ (by simp) (by simp)⟩ (.cons ⟨rfl, ?_⟩ .nil))))
    exact .of_mem (c := .list (Choice.revision fits)) (by simp) (by simp) (.items (.cons option .nil))
  have declarations : declarationsRevision fits 126 (.ofFields [("prompts", .list [promptWith labelled])])
      (.ofFields [("prompts", .list [promptWith (noted note)])]) := by
    refine .fields (.of_forall₂ (.cons ⟨rfl, ?_⟩ .nil))
    exact .of_mem (c := .list (Prompt.revision fits)) (by simp) (by simp) (.items (.cons prompt .nil))
  refine .fields (.of_forall₂ (.cons ⟨rfl, ?_⟩ .nil))
  exact .of_mem (c := declarationsRevision fits) (by simp) (by simp) declarations

/-- The blueprint of the document, with its option. -/
def asking : Blueprint :=
  { empty with prompts := [⟨"input", "kind", "Kind?", [.labelled "A" "a"], none, none⟩] }

theorem ofSource_labelled : ofSource .json ⟨documentWith labelled, #[], true⟩ = .ok asking := by
  have read : (ofSource .json ⟨documentWith labelled, #[], true⟩).toOption = some asking := by
    decide +kernel
  cases done : ofSource .json ⟨documentWith labelled, #[], true⟩ with
  | error e => rw [done] at read; cases read
  | ok b => rw [done] at read; exact congrArg Except.ok (Option.some.inj read)

/-- A note with three levels in an option does not matter, nor does the order of its keys. -/
theorem ofSource_revised_of_note :
    (documentWith labelled).IsJson ∧
      revision IsShallow Format.json.room (documentWith labelled) (documentWith (noted (nested 3))) ∧
      ofSource .json ⟨documentWith labelled, #[], true⟩ = .ok asking ∧
      ofSource .json ⟨documentWith (noted (nested 3)), #[], true⟩ = .ok asking := by
  have revised : revision IsShallow Format.json.room (documentWith labelled) (documentWith (noted (nested 3))) :=
    revision_noted (isJson_nested 3) (show (nested 3).nesting < 122 by decide)
  exact ⟨isJson_labelled, revised, ofSource_labelled, ofSource_revised isJson_labelled revised ofSource_labelled⟩

/-- An option is not read any more when a value goes too deep that is none of its two texts. -/
theorem not_ofSource_revised_of_deep :
    ¬ ∀ (t t' : Tree) (b : Blueprint), t.IsJson → revision (fun _ _ => True) Format.json.room t t' →
      ofSource .json ⟨t, #[], true⟩ = .ok b → ofSource .json ⟨t', #[], true⟩ = .ok b := by
  intro same
  have refused : (ofSource .json ⟨documentWith (noted (nested 122)), #[], true⟩).isOk = false := by
    decide +kernel
  rw [same _ _ asking isJson_labelled (revision_noted (isJson_nested 122) trivial) ofSource_labelled] at refused
  cases refused

end Scaffold.Blueprint
