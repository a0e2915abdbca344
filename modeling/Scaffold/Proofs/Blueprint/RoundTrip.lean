import Scaffold.Blueprint.Load
import Scaffold.Blueprint.Encode
import Scaffold.Proofs.Document.Reading

/-! Blueprints are read back from the trees they are written as, provided that their numbers are finite. -/
namespace Scaffold

open Document

/-! Values as plain scalars. -/

/-- A value as a scalar. There is no scalar for a number that is not finite. -/
def Value.toTree : Value → Tree
  | flag b => .flag b
  | number x => if x.isFinite then .number x else .null
  | text s => .text s

/-- A value that a scalar stands for. -/
def Value.IsFinite : Value → Prop
  | number x => x.isFinite = true
  | _ => True

instance : DecidablePred Value.IsFinite
  | .flag _ => .isTrue trivial
  | .number x => inferInstanceAs (Decidable (x.isFinite = true))
  | .text _ => .isTrue trivial

theorem Value.exists_atom {value : Value} (finite : value.IsFinite) :
    ∃ a, value.toTree = .atom a ∧ a ≠ .null ∧
      ∀ s, Blueprint.scalarValue? s (.atom a) = some value := by
  cases value with
  | flag b => exact ⟨.flag b, rfl, nofun, fun _ => rfl⟩
  | number x =>
    have here : x.isFinite = true := finite
    exact ⟨.number x, if_pos here, nofun, fun _ => rfl⟩
  | text s => exact ⟨.text s, rfl, nofun, fun _ => rfl⟩

namespace Blueprint

/-! Fields as rows. -/

theorem entries_singleton (name : String) (value : Option Tree) :
    Row.entries [(name, value)] = field name value := by
  cases value <;> rfl

theorem field_unless (name : String) (c : Bool) (t : Tree) :
    field name (if c then none else some t) = if c then [] else [(name, t)] := by
  cases c <;> rfl

theorem field_list (name : String) (items : List Tree) :
    field name (if items.isEmpty then none else some (.list items)) = listField name items :=
  field_unless name _ _

theorem takes_maybe {r : Reader α} {depth : Nat} {write : α → Tree} (name : String) (value : Option α)
    (reads : ∀ a, value = some a → Reads r depth (write a) a)
    (present : ∀ a, value = some a → (write a).IsPresent) :
    Fields.Takes (.maybe name r) depth [(name, value.map write)] value := by
  refine .withDefault name (fun t written => ?_) fun absent => ?_
  · obtain ⟨a, rfl, rfl⟩ := Option.map_eq_some_iff.mp written
    exact (reads a rfl).optional (present a rfl)
  · exact (Option.map_eq_none_iff.mp absent).symm

theorem takes_text (depth : Nat) (name : String) (value : Option String) :
    Fields.Takes (.maybe name .text) depth [(name, value.map .text)] value :=
  takes_maybe name value (fun s _ => .text depth s) fun _ _ => rfl

theorem takes_list {r : Reader α} {depth : Nat} {write : α → Tree} (name : String) (as : List α)
    (reads : ∀ a ∈ as, Reads r depth (write a) a) :
    Fields.Takes (.withDefault name [] (.list r)) (depth + 1)
      [(name, if (as.map write).isEmpty then none else some (.list (as.map write)))] as := by
  refine .withDefault name (fun t written => ?_) fun absent => ?_
  · obtain ⟨-, same⟩ := Option.ite_none_left_eq_some.mp written
    exact Option.some.inj same ▸ .list reads
  · cases as with
    | nil => rfl
    | cons a as => cases absent

/-- A field with a value for where it is missing, which is never left out. -/
theorem takes_always {r : Reader α} {depth : Nat} {t : Tree} {a : α} (name : String) (default : α)
    (reads : Reads r depth t a) :
    Fields.Takes (.withDefault name default r) depth [(name, some t)] a :=
  .withDefault name (fun _ written => Option.some.inj written ▸ reads) nofun

/-! The parts of a blueprint. -/

theorem readValue_reads (depth : Nat) {value : Value} (finite : value.IsFinite) :
    Reads readValue depth value.toTree value := by
  obtain ⟨a, written, -, form⟩ := Value.exists_atom finite
  rw [written]
  exact .oneOf trivial (fun s limit _ => gives_checkReadable_atom s limit s.room a) form

theorem Value.isPresent_toTree {value : Value} (finite : value.IsFinite) : value.toTree.IsPresent := by
  obtain ⟨a, written, apart, -⟩ := Value.exists_atom finite
  rw [written]
  exact if_neg apart

theorem pair_reads {type first second : String} (apart : first ≠ second) {plain : String → α}
    {two : String → String → α} (depth : Nat) (a b : String) :
    Reads (.oneOf type fun s t =>
        (textAtom? s t).map plain <|> (pair? first second s t).map fun (a, b) => two a b)
      (depth + 1) (.ofFields [(first, .text a), (second, .text b)]) (two a b) := by
  refine .oneOf trivial (fun s limit room => ?_) fun s => ?_
  · obtain ⟨left, same⟩ := Nat.exists_eq_add_of_le' room
    rw [same]
    exact gives_checkReadable_texts s limit _ [(first, a), (second, b)]
  · rw [pair?_texts s apart]
    rfl

theorem Choice.reads (depth : Nat) (c : Choice) : Reads Choice.read (depth + 1) c.toTree c := by
  cases c with
  | plain text =>
    exact .oneOf trivial (fun s limit _ => gives_checkReadable_atom s limit s.room (.text text)) fun _ => rfl
  | labelled label value => exact pair_reads (by decide) depth label value

theorem Target.reads (depth : Nat) (t : Target) : Reads Target.read (depth + 1) t.toTree t := by
  cases t with
  | single path =>
    exact .oneOf trivial (fun s limit _ => gives_checkReadable_atom s limit s.room (.text path)) fun _ => rfl
  | move source destination => exact pair_reads (by decide) depth source destination

theorem Metadata.reads (depth : Nat) (m : Metadata) : Reads Metadata.read (depth + 1) m.toTree m := by
  have takes := ((takes_text depth "name" m.name).map mk).seq (takes_text depth "version" m.version)
    |>.seq (takes_text depth "description" m.description)
  have reads := Fields.reads_record takes (by decide)
  simp only [Row.entries_append, entries_singleton] at reads
  exact reads

theorem AnswerRule.reads (depth : Nat) (r : AnswerRule) :
    Reads AnswerRule.read (depth + 1) r.toTree r := by
  have takes := ((Fields.Takes.required "regex" (.text depth r.pattern)).map mk).seq
    (takes_text depth "error" r.error)
  have reads := Fields.reads_record takes (by decide)
  simp only [Row.entries_append, entries_singleton] at reads
  exact reads

theorem Interaction.reads (depth : Nat) (i : Interaction) :
    Reads Interaction.read (depth + 1) i.toTree i := by
  have takes := ((Fields.Takes.required "question" (.text depth i.question)).map mk).seq
    (.required "answer" (.text depth i.answer))
  have reads := Fields.reads_record takes (by decide)
  simp only [Row.entries_append, entries_singleton] at reads
  exact reads

theorem Check.reads (depth : Nat) (c : Check) : Reads Check.read (depth + 1) c.toTree c := by
  have takes := ((Fields.Takes.required "test" (.text depth c.test)).map mk).seq
    (.required "path" (.text depth c.path)) |>.seq (takes_text depth "text" c.text)
  have reads := Fields.reads_record takes (by decide)
  simp only [Row.entries_append, entries_singleton] at reads
  exact reads

theorem Completion.reads (depth : Nat) (c : Completion) :
    Reads Completion.read (depth + 1) c.toTree c := by
  have takes := (takes_text depth "message" c.message).map mk
  have reads := Fields.reads_record takes (by decide)
  simp only [entries_singleton] at reads
  exact reads

theorem Prompt.reads (depth : Nat) {p : Prompt}
    (finite : ∀ value, p.default = some value → value.IsFinite) :
    Reads Prompt.read (depth + 3) (p.toTree Value.toTree) p := by
  have takes := ((takes_always "type" "input" (.text (depth + 2) p.type)).map mk).seq
      (.required "name" (.text (depth + 2) p.name))
    |>.seq (.required "message" (.text (depth + 2) p.message))
    |>.seq (takes_list "options" p.options fun c _ => Choice.reads depth c)
    |>.seq (takes_maybe "default" p.default
      (fun value given => readValue_reads (depth + 2) (finite value given))
      fun value given => Value.isPresent_toTree (finite value given))
    |>.seq (takes_maybe "validate" p.rule (fun r _ => AnswerRule.reads (depth + 1) r) fun _ _ => trivial)
  have reads := Fields.reads_record takes (by decide)
  simp only [Row.entries_append, entries_singleton, field_list] at reads
  exact reads

theorem Target.isPresent_toTree (t : Target) : t.toTree.IsPresent := by
  cases t with
  | single path => exact rfl
  | move source destination => trivial

theorem takes_isInteractive (depth : Nat) (b : Bool) :
    Fields.Takes (.withDefault "haveInteraction" false .flag) depth
      [("haveInteraction", if b then some (.flag true) else none)] b := by
  refine .withDefault _ (fun t written => ?_) fun absent => ?_
  · obtain ⟨rfl, same⟩ := Option.ite_none_right_eq_some.mp written
    exact Option.some.inj same ▸ .flag depth true
  · cases b with
    | false => rfl
    | true => cases absent

theorem Step.reads (depth : Nat) (s : Step) : Reads Step.read (depth + 3) s.toTree s := by
  have takes := ((takes_always "title" "" (.text (depth + 2) s.title)).map mk).seq
      (takes_text (depth + 2) "description" s.description)
    |>.seq (takes_text (depth + 2) "when" s.condition)
    |>.seq (takes_always "type" "" (.text (depth + 2) s.type))
    |>.seq (takes_text (depth + 2) "cmd" s.command)
    |>.seq (takes_text (depth + 2) "cwd" s.directory)
    |>.seq (takes_isInteractive (depth + 2) s.isInteractive)
    |>.seq (takes_list "interactions" s.interactions fun i _ => Interaction.reads depth i)
    |>.seq (takes_list "paths" s.paths fun path _ => .text (depth + 1) path)
    |>.seq (takes_text (depth + 2) "action" s.action)
    |>.seq (takes_maybe "path" s.target (fun t _ => Target.reads (depth + 1) t)
      fun t _ => t.isPresent_toTree)
    |>.seq (takes_text (depth + 2) "content" s.content)
    |>.seq (takes_text (depth + 2) "find" s.find)
    |>.seq (takes_text (depth + 2) "replace" s.replacement)
    |>.seq (takes_maybe "validate" s.check (fun c _ => Check.reads (depth + 1) c) fun _ _ => trivial)
  have reads := Fields.reads_record takes (by decide)
  simp only [Row.entries_append, entries_singleton, field_list] at reads
  exact reads

theorem Phase.reads (depth : Nat) (p : Phase) : Reads Phase.read (depth + 5) p.toTree p := by
  have takes := ((takes_always "title" "" (.text (depth + 4) p.title)).map mk).seq
      (takes_text (depth + 4) "description" p.description)
    |>.seq (takes_text (depth + 4) "when" p.condition)
    |>.seq (takes_always "steps" [] (.list fun s (_ : s ∈ p.steps) => Step.reads depth s))
  have reads := Fields.reads_record takes (by decide)
  simp only [Row.entries_append, entries_singleton] at reads
  exact reads

/-- The values that a blueprint holds as such are finite. -/
structure IsFinite (b : Blueprint) : Prop where
  declarations : ∀ (name : String) (value : Value),
    b.declarations[name]? = some (some value) → value.IsFinite
  defaults : ∀ p ∈ b.prompts, ∀ value, p.default = some value → value.IsFinite

theorem takes_variables (depth : Nat) {vars : Std.ExtTreeMap String (Option Value)}
    (finite : ∀ (name : String) (value : Value), vars[name]? = some (some value) → value.IsFinite) :
    Fields.Takes (.withDefault "variables" ∅ (.map (.optional readValue))) (depth + 1)
      [("variables", if vars.isEmpty then none else some (variablesTree Value.toTree vars))] vars := by
  have each (name : String) (value : Option Value) (found : vars[name]? = some value) :
      Reads (.optional readValue) depth ((value.map Value.toTree).getD .null) value := by
    cases value with
    | none => exact .missing readValue depth
    | some value =>
      have here := finite name value found
      exact (readValue_reads depth here).optional (Value.isPresent_toTree here)
  refine .withDefault _ (fun t written => ?_) fun absent => ?_
  · obtain ⟨-, same⟩ := Option.ite_none_left_eq_some.mp written
    have reads := Reads.map each
    rw [← Option.some.inj same]
    exact reads
  · cases empty : vars.isEmpty with
    | true => exact (Std.ExtTreeMap.isEmpty_iff.mp empty).symm
    | false => simp [empty] at absent

theorem reads_declarations (depth : Nat) {b : Blueprint} (finite : b.IsFinite) :
    Reads readDeclarations (depth + 5) (.ofFields <|
        (if b.declarations.isEmpty then [] else
          [("variables", variablesTree Value.toTree b.declarations)]) ++
        listField "prompts" (b.prompts.map (Prompt.toTree Value.toTree)))
      (b.declarations, b.prompts) := by
  have takes := ((takes_variables (depth + 3) finite.declarations).map Prod.mk).seq
    (takes_list "prompts" b.prompts fun p member => Prompt.reads depth (finite.defaults p member))
  have reads := Fields.reads_record takes (by decide)
  simp only [Row.entries_append, entries_singleton, field_unless] at reads
  exact reads

theorem reads_workflow (depth : Nat) (phases : List Phase) :
    Reads readWorkflow (depth + 7) (.ofFields [("phases", .list (phases.map Phase.toTree))]) phases := by
  have takes := (takes_always "phases" [] (.list fun p (_ : p ∈ phases) => Phase.reads depth p)).map id
  have reads := Fields.reads_record takes (by decide)
  simp only [entries_singleton] at reads
  exact reads

theorem reads_toTree (depth : Nat) {b : Blueprint} (finite : b.IsFinite) :
    Reads read (depth + 8) (b.toTree Value.toTree) b := by
  let assemble (about : Metadata) (declared : Std.ExtTreeMap String (Option Value) × List Prompt)
      (phases : List Phase) (completion : Option Completion) : Blueprint :=
    ⟨about, declared.1, declared.2, phases, completion⟩
  have takes := ((takes_always "meta" empty.about (Metadata.reads (depth + 6) b.about)).map assemble).seq
      (takes_always "config" (∅, []) (reads_declarations (depth + 2) finite))
    |>.seq (takes_always "workflow" [] (reads_workflow depth b.phases))
    |>.seq (takes_maybe "afterPhases" b.completion (fun c _ => Completion.reads (depth + 6) c)
      fun _ _ => trivial)
  have reads := Fields.reads_record takes (by decide)
  simp only [Row.entries_append, entries_singleton] at reads
  exact reads

/-- A blueprint whose values are finite is read back, in either format, from the tree that it is
written as. -/
theorem ofSource_toTree (f : Format) (b : Blueprint) (finite : b.IsFinite) :
    ofSource f ⟨b.toTree Value.toTree, #[], true⟩ = .ok b := by
  have room : 8 ≤ (f.setting ⟨b.toTree Value.toTree, #[], true⟩).room := by
    cases f <;> exact Nat.le_of_ble_eq_true rfl
  have reads := reads_toTree 0 finite _ room 0 (Nat.zero_le _)
  have run : Reader.run read (f.setting ⟨b.toTree Value.toTree, #[], true⟩) (b.toTree Value.toTree) =
      .ok b := congrArg Prod.fst reads
  rw [ofSource, run]
  rfl

/-- A file that is moved, without anything that may be left out. -/
def movingStep : Step where
  title := "rename"
  description := none
  condition := none
  type := "file"
  command := none
  directory := none
  isInteractive := false
  interactions := []
  paths := []
  action := some "move"
  target := some (.move "old" "new")
  content := none
  find := none
  replacement := none
  check := none

/-- A blueprint in which each shape occurs that a part of one may have. -/
def varied : Blueprint where
  about := ⟨some "demo", none, none⟩
  declarations := ((∅ : Std.ExtTreeMap String (Option Value)).insert "unset" none).insert "ratio"
    (some (.number (.ofInt 3)))
  prompts :=
    [⟨"select", "kind", "Kind?", [.plain "a", .labelled "B" "b"], some (.number (.ofInt 0)), none⟩,
      ⟨"input", "name", "Name?", [], none, some ⟨"[a-z]+", none⟩⟩]
  phases :=
    [⟨"files", none, some "unset", [movingStep,
      { movingStep with
        isInteractive := true, interactions := [⟨"Sure?", "y"⟩], target := some (.single "old") }]⟩,
      ⟨"nothing", none, none, []⟩]
  completion := some ⟨none⟩

theorem varied_isFinite : varied.IsFinite := by
  refine ⟨fun name value found => ?_, fun p member value given => ?_⟩
  · simp only [varied, Std.ExtTreeMap.getElem?_insert] at found
    split at found
    · cases found
      decide
    · split at found
      · cases found
      · simp at found
  · simp only [varied, List.mem_cons, List.not_mem_nil, or_false] at member
    rcases member with rfl | rfl
    · cases given
      decide
    · cases given

theorem ofSource_varied : varied.IsFinite ∧
    ofSource .json ⟨varied.toTree Value.toTree, #[], true⟩ = .ok varied :=
  ⟨varied_isFinite, ofSource_toTree .json varied varied_isFinite⟩

end Blueprint

end Scaffold
