import Scaffold.CommandLine.Program
import Scaffold.Proofs.Run.Perform

/-! How the variables of a run come about. The prompts are asked one after another, each with a question
that is made of the declared variables only; the first one that has no question, or whose answer is
refused, ends the run before anything else happens. -/
namespace Scaffold

namespace Respondent

@[simp] theorem isScript_ask (r : Respondent) (q : Question) : (r.ask q).2.isScript = r.isScript := by
  cases r with
  | script s => rfl
  | environment overrides =>
    simp only [ask]
    split <;> rfl
  | terminal => rfl

end Respondent

namespace Variables

theorem get?_merge (vars : Variables) (answers : List (String × Value)) (name : String) :
    (vars.merge answers).get? name = (answers.reverse.lookup name <|> vars.get? name) := by
  induction answers generalizing vars with
  | nil => rfl
  | cons answer answers ih =>
    obtain ⟨key, value⟩ := answer
    have rest := ih (vars.insert key value)
    rw [get?_insert] at rest
    refine rest.trans ?_
    rw [List.reverse_cons, List.lookup_append]
    by_cases same : name = key
    · simp [same]
    · simp [List.lookup_cons, beq_false_of_ne same, Ne.symm same]

end Variables

/-- A world whose respondent has been asked, with what was shown meanwhile. -/
def World.asked (w : World) (shown : Transcript) (r : Respondent) : World :=
  { w with respondent := r, transcript := w.transcript ++ shown }

namespace Run

section Asking

variable (seeded : Variables)

def questionOf (p : Blueprint.Prompt) : Except Error Question :=
  Resolving.result (Question.ofPrompt seeded p)

def questionWarnings (p : Blueprint.Prompt) : Transcript :=
  (Question.ofPrompt seeded p).run.warnings.map .logged

/-- What is shown when a respondent is asked the question of a prompt. -/
def asking (r : Respondent) (p : Blueprint.Prompt) : Transcript :=
  questionWarnings seeded p ++ if r.isScript then [.asked p.name] else []

/-- Prompts that a respondent has answered one after another, each with its question. -/
inductive Interview : Respondent → List Blueprint.Prompt → List (String × Value) → Respondent → Prop
  | nil (r : Respondent) : Interview r [] [] r
  | cons {r next last : Respondent} {p : Blueprint.Prompt} {prompts : List Blueprint.Prompt} {q : Question}
    {a : Answer} {answers : List (String × Value)} (built : questionOf seeded p = .ok q)
    (answered : r.ask q = (.ok a, next)) (rest : Interview next prompts answers last) :
    Interview r (p :: prompts) ((p.name, a.value) :: answers) last

/-- A prompt that fails: it has no question and is not asked, or its answer is refused. -/
inductive Refused (r : Respondent) (p : Blueprint.Prompt) : Error → Transcript → Respondent → Prop
  | unbuilt {e : Error} (unbuilt : questionOf seeded p = .error e) :
    Refused r p e (questionWarnings seeded p) r
  | unanswered {q : Question} {e : Error} {next : Respondent} (built : questionOf seeded p = .ok q)
    (unanswered : r.ask q = (.error e, next)) : Refused r p e (asking seeded r p) next

variable {seeded}

/-- Only the text and the default of a question depend on the variables. -/
theorem questionOf_eq (p : Blueprint.Prompt) :
    questionOf seeded p = do
      let kind ← Question.kindOf p
      let rule ← Question.ruleOf p
      return ⟨p.name, (Template.resolve seeded p.message).value, kind,
        p.default.map fun v => (Question.defaultOf seeded v).value, rule⟩ := by
  have shown : Resolving.result (p.default.mapM fun v => liftM (Question.defaultOf seeded v)) =
      .ok (p.default.map fun v => (Question.defaultOf seeded v).value) := by
    cases p.default <;> rfl
  simp only [questionOf, Question.ofPrompt, Resolving.result_bind, shown]
  rfl

theorem key_of_questionOf {p : Blueprint.Prompt} {q : Question} (built : questionOf seeded p = .ok q) :
    q.key = p.name := by
  rw [questionOf_eq] at built
  cases kind : Question.kindOf p with
  | error e => simp [kind, bind, Except.bind] at built
  | ok kind' =>
    cases rule : Question.ruleOf p with
    | error e => simp [kind, rule, bind, Except.bind] at built
    | ok rule' =>
      simp only [kind, rule] at built
      cases built
      rfl

theorem outcome_answerPrompt {p : Blueprint.Prompt} {q : Question} (built : questionOf seeded p = .ok q)
    (w : World) :
    (answerPrompt seeded p).outcome w = ((w.respondent.ask q).1.map fun a => (p.name, a.value),
      w.asked (asking seeded w.respondent p) (w.respondent.ask q).2) := by
  have key := key_of_questionOf built
  rw [questionOf] at built
  rw [answerPrompt, outcome_bind, outcome_resolved, built]
  simp only [outcome_bind, outcome_ask, outcome_pure, key, World.append]
  rcases w.respondent.ask q with ⟨e | a, next⟩
  · simp [World.asked, asking, questionWarnings, Except.map]
  · simp [World.asked, asking, questionWarnings, Except.map]

theorem outcome_answerPrompt_of_refused {p : Blueprint.Prompt} {w : World} {e : Error} {shown : Transcript}
    {r : Respondent} (refused : Refused seeded w.respondent p e shown r) :
    (answerPrompt seeded p).outcome w = (.error e, w.asked shown r) := by
  cases refused with
  | unbuilt unbuilt =>
    rw [questionOf] at unbuilt
    rw [answerPrompt, outcome_bind, outcome_resolved, unbuilt]
    rfl
  | unanswered built unanswered =>
    rw [outcome_answerPrompt built, unanswered]
    rfl

/-- What is shown for prompts depends on the respondent only in its kind. -/
theorem asking_of_ask {r next : Respondent} {q : Question} {reply : Except Error Answer}
    (answered : r.ask q = (reply, next)) : asking seeded next = asking seeded r := by
  have kind := r.isScript_ask q
  rw [answered] at kind
  funext p
  rw [asking, asking, kind]

theorem outcome_of_interview {w : World} {prompts : List Blueprint.Prompt} {answers : List (String × Value)}
    {r : Respondent} (interview : Interview seeded w.respondent prompts answers r) :
    (prompts.mapM (answerPrompt seeded)).outcome w =
      (.ok answers, w.asked (prompts.flatMap (asking seeded w.respondent)) r) := by
  generalize first : w.respondent = start at interview ⊢
  induction interview generalizing w with
  | nil => simp [World.asked, ← first]
  | @cons start next last p prompts q a answers built answered rest ih =>
    have one := outcome_answerPrompt built w
    rw [first, answered] at one
    rw [mapM_cons_of_ok prompts one, ih rfl, asking_of_ask answered]
    simp [World.asked, Except.map]

theorem asks_of_mem_asking {r : Respondent} {p : Blueprint.Prompt} {event : Event}
    (member : event ∈ asking seeded r p) :
    (∃ warning, event = .logged warning) ∨ ∃ key, event = .asked key := by
  rcases List.mem_append.mp member with member | member
  · exact .inl (IsLog.ofWarnings _ event member)
  · split at member
    · exact .inr ⟨p.name, List.mem_singleton.mp member⟩
    · cases member

theorem Refused.asks_of_mem {r last : Respondent} {p : Blueprint.Prompt} {e : Error} {shown : Transcript}
    (refused : Refused seeded r p e shown last) {event : Event} (member : event ∈ shown) :
    (∃ warning, event = .logged warning) ∨ ∃ key, event = .asked key := by
  cases refused with
  | unbuilt => exact .inl (IsLog.ofWarnings _ event member)
  | unanswered => exact asks_of_mem_asking member

/-- Either all prompts are answered, or one fails after all those before it. -/
theorem interview_cases (r : Respondent) (prompts : List Blueprint.Prompt) :
    (∃ answers last, Interview seeded r prompts answers last) ∨
      ∃ before p after answers middle e shown last, prompts = before ++ p :: after ∧
        Interview seeded r before answers middle ∧ Refused seeded middle p e shown last := by
  induction prompts generalizing r with
  | nil => exact .inl ⟨[], r, .nil r⟩
  | cons p prompts ih =>
    cases built : questionOf seeded p with
    | error e => exact .inr ⟨[], p, prompts, [], r, e, _, r, rfl, .nil r, .unbuilt built⟩
    | ok q =>
      rcases answered : r.ask q with ⟨e | a, next⟩
      · exact .inr ⟨[], p, prompts, [], r, e, _, next, rfl, .nil r, .unanswered built answered⟩
      · rcases ih next with ⟨answers, last, rest⟩ |
          ⟨before, x, after, answers, middle, e, shown, last, rfl, rest, refused⟩
        · exact .inl ⟨_, last, .cons built answered rest⟩
        · exact .inr ⟨p :: before, x, after, _, middle, e, shown, last, rfl,
            .cons built answered rest, refused⟩

end Asking

theorem outcome_collect (b : Blueprint) (w : World) :
    (collect b).outcome w =
      ((((b.prompts.mapM (answerPrompt (.seeded b.declarations))).outcome w).1.map
          (Variables.seeded b.declarations).merge),
        ((b.prompts.mapM (answerPrompt (.seeded b.declarations))).outcome w).2) := by
  rw [collect, outcome_bind]
  rcases (b.prompts.mapM (answerPrompt (.seeded b.declarations))).outcome w with ⟨e | answers, w'⟩
  · rfl
  · rfl

section Collecting

variable {b : Blueprint} {w : World} {answers : List (String × Value)}

theorem outcome_collect_of_interview {r : Respondent}
    (interview : Interview (.seeded b.declarations) w.respondent b.prompts answers r) :
    (collect b).outcome w = (.ok ((Variables.seeded b.declarations).merge answers),
      w.asked (b.prompts.flatMap (asking (.seeded b.declarations) w.respondent)) r) := by
  rw [outcome_collect, outcome_of_interview interview]
  rfl

theorem outcome_collect_of_refused {before after : List Blueprint.Prompt} {p : Blueprint.Prompt}
    {r last : Respondent} {e : Error} {shown : Transcript} (split : b.prompts = before ++ p :: after)
    (interview : Interview (.seeded b.declarations) w.respondent before answers r)
    (refused : Refused (.seeded b.declarations) r p e shown last) :
    (collect b).outcome w =
      (.error e, w.asked (before.flatMap (asking (.seeded b.declarations) w.respondent) ++ shown) last) := by
  have asked := outcome_of_interview interview
  rw [outcome_collect, split, outcome_mapM_append_error asked (outcome_answerPrompt_of_refused refused)]
  simp [World.asked, Except.map]

theorem interview_of_collect {vars : Variables} {w' : World} (done : (collect b).outcome w = (.ok vars, w')) :
    ∃ answers r, Interview (.seeded b.declarations) w.respondent b.prompts answers r ∧
      w' = w.asked (b.prompts.flatMap (asking (.seeded b.declarations) w.respondent)) r ∧
      vars = (Variables.seeded b.declarations).merge answers := by
  rcases interview_cases w.respondent b.prompts with ⟨answers, r, interview⟩ |
    ⟨before, p, after, answers, r, e, shown, last, split, interview, refused⟩
  · obtain ⟨stored, rfl⟩ := Prod.mk.inj ((outcome_collect_of_interview interview).symm.trans done)
    exact ⟨answers, r, interview, rfl, (Except.ok.inj stored).symm⟩
  · rw [outcome_collect_of_refused split interview refused] at done
    cases done

theorem outcome_runBlueprint_of_error {s : CommandLine.Situation} {a : CommandLine.Arguments} {w' : World}
    {e : Error} (loaded : Blueprint.load w.surroundings.files s.directory a.config = .ok b)
    (failed : (collect b).outcome w = (.error e, w')) :
    (CommandLine.runBlueprint s a).outcome w = (.error e, w') := by
  have found : Run.files.outcome w = (.ok w.surroundings.files, w) := rfl
  simp only [CommandLine.runBlueprint, outcome_bind, found, loaded, outcome_liftM, failed]

end Collecting

/-- Prompts are asked in their order, each with a question that is made of the declared variables. For
each name the store has the answer to the last prompt of that name, or else the declared value. A prompt
that has no question or whose answer is refused is the end of the run: nothing else has happened but that
the prompts before it were asked. -/
theorem collect_asks (b : Blueprint) (w : World) :
    let seeded := Variables.seeded b.declarations
    (∀ vars w', (collect b).outcome w = (.ok vars, w') →
      ∃ answers r, Interview seeded w.respondent b.prompts answers r ∧
        w' = w.asked (b.prompts.flatMap (asking seeded w.respondent)) r ∧
        ∀ name, vars.get? name = (answers.reverse.lookup name <|> b.declarations[name]?.join)) ∧
    (∀ e w', (collect b).outcome w = (.error e, w') →
      ∃ before p after answers r shown last, b.prompts = before ++ p :: after ∧
        Interview seeded w.respondent before answers r ∧ Refused seeded r p e shown last) ∧
    ∀ before p after answers r e shown last, b.prompts = before ++ p :: after →
      Interview seeded w.respondent before answers r → Refused seeded r p e shown last →
      let events := before.flatMap (asking seeded w.respondent) ++ shown
      let w' := w.asked events last
      (collect b).outcome w = (.error e, w') ∧ w'.surroundings = w.surroundings ∧
        (∀ event ∈ events, (∃ warning, event = .logged warning) ∨ ∃ key, event = .asked key) ∧
        ∀ (s : CommandLine.Situation) (a : CommandLine.Arguments),
          Blueprint.load w.surroundings.files s.directory a.config = .ok b →
          (CommandLine.runBlueprint s a).outcome w = (.error e, w') := by
  intro seeded
  refine ⟨?_, ?_, ?_⟩
  · intro vars w' done
    obtain ⟨answers, r, interview, rfl, rfl⟩ := interview_of_collect done
    refine ⟨answers, r, interview, rfl, fun name => ?_⟩
    rw [Variables.get?_merge, Variables.get?_seeded]
  · intro e w' stopped
    rcases interview_cases w.respondent b.prompts with ⟨answers, r, interview⟩ |
      ⟨before, p, after, answers, r, e, shown, last, split, interview, refused⟩
    · rw [outcome_collect_of_interview interview] at stopped
      cases stopped
    · rw [outcome_collect_of_refused split interview refused] at stopped
      cases stopped
      exact ⟨before, p, after, answers, r, shown, last, split, interview, refused⟩
  · intro before p after answers r e shown last split interview refused events w'
    have stop := outcome_collect_of_refused split interview refused
    refine ⟨stop, rfl, ?_, fun s a loaded => outcome_runBlueprint_of_error loaded stop⟩
    intro event member
    rcases List.mem_append.mp member with member | member
    · obtain ⟨p, -, member⟩ := List.mem_flatMap.mp member
      exact asks_of_mem_asking member
    · exact refused.asks_of_mem member

end Run

end Scaffold
