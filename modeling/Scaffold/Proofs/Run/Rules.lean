import Scaffold.Proofs.Run.Interview

/-! The texts that answer the prompts of a run. Which text answers a prompt is known from the prompts before it,
without anybody being asked: a queue has given one text for each of them that has the same name. A run has its
variables when each of these texts matches the pattern of its prompt, and the first one that does not is the end
of the run. -/
namespace Scaffold

/-- The pattern of a rule can be read, and a text matches it. -/
def Blueprint.AnswerRule.Accepts (rule : Blueprint.AnswerRule) (text : String) : Prop :=
  ∃ pattern, Pattern.parse rule.pattern = .ok pattern ∧ pattern.isMatch text = true

/-- The answers to a prompt of this type are stored as they are written. -/
def Blueprint.Prompt.IsWritten (p : Blueprint.Prompt) : Prop :=
  Text.lowercase p.type ∈ ["input", "text", "password", "select", "list"]

namespace Script

theorem take_cases (s : Script) (asked : String) :
    (∃ answer rest, s.queues[asked]? = some (answer :: rest) ∧
      s.take asked = (some answer, { s with queues := s.queues.insert asked rest })) ∨
      s.queues[asked]?.getD [] = [] ∧ s.take asked = (s.responses[asked]?, s) := by
  rw [take]
  cases queue : s.queues[asked]? with
  | none => exact .inr ⟨rfl, rfl⟩
  | some texts =>
    cases texts with
    | nil => exact .inr ⟨rfl, rfl⟩
    | cons answer rest => exact .inl ⟨answer, rest, rfl, rfl⟩

theorem take_fst (s : Script) (asked : String) :
    (s.take asked).1 = ((s.queues[asked]?.getD []).head? <|> s.responses[asked]?) := by
  rcases s.take_cases asked with ⟨answer, rest, queue, taken⟩ | ⟨empty, taken⟩
  · rw [taken, queue]
    rfl
  · rw [taken, empty]
    rfl

theorem queues_take (s : Script) (asked key : String) :
    (s.take asked).2.queues[key]?.getD [] =
      (s.queues[key]?.getD []).drop (if asked = key then 1 else 0) := by
  rcases s.take_cases asked with ⟨answer, rest, queue, taken⟩ | ⟨empty, taken⟩
  · by_cases same : asked = key
    · subst same
      simp [taken, queue]
    · simp [taken, Std.ExtTreeMap.getElem?_insert, same]
  · by_cases same : asked = key
    · subst same
      rw [taken, empty, List.drop_nil]
    · simp [taken, same]

theorem responses_take (s : Script) (asked : String) : (s.take asked).2.responses = s.responses := by
  rcases s.take_cases asked with ⟨answer, rest, -, taken⟩ | ⟨-, taken⟩ <;> rw [taken]

end Script

namespace Respondent

/-- The text that answers a question once the questions of the keys `earlier` have been asked. A script goes on in
the queue of the key, then has its fixed response, and takes the empty text at last; without an operator the
environment or the default answers. -/
def textAfter (r : Respondent) (earlier : List String) (key : String) (default : Option String) :
    Option String :=
  match r with
  | script s => ((s.queues[key]?.getD []).drop (earlier.count key)).head? <|> s.responses[key]? <|> default <|> some ""
  | environment overrides => overrides[settingName key]? <|> default
  | terminal => none

theorem textAfter_ask (r : Respondent) (q : Question) (earlier : List String) (key : String)
    (default : Option String) :
    (r.ask q).2.textAfter earlier key default = r.textAfter (q.key :: earlier) key default := by
  cases r with
  | script s =>
    simp only [ask, textAfter, s.queues_take q.key key, s.responses_take q.key, List.drop_drop, List.count_cons,
      beq_iff_eq, Nat.add_comm]
  | environment overrides =>
    rw [ask]
    split <;> rfl
  | terminal => rfl

theorem ask_of_textAfter {r : Respondent} {q : Question} {text : String}
    (given : r.textAfter [] q.key q.default = some text) : (r.ask q).1 = q.answer text := by
  cases r with
  | script s =>
    have first : (((s.take q.key).1 <|> q.default).getD "") = text := by
      rw [s.take_fst, ← Option.some_inj, ← given]
      simp only [textAfter, List.count_nil, List.drop_zero]
      cases (s.queues[q.key]?.getD []).head? <;> cases s.responses[q.key]? <;> cases q.default <;> rfl
    simp only [ask, first]
  | environment overrides =>
    rw [textAfter] at given
    simp only [ask, given]
  | terminal => cases given

theorem exists_textAfter {r next : Respondent} {q : Question} {a : Answer} (answered : r.ask q = (.ok a, next)) :
    ∃ text, r.textAfter [] q.key q.default = some text := by
  cases r with
  | script s =>
    refine Option.isSome_iff_exists.mp ?_
    simp [textAfter, Option.orElse_eq_or]
  | environment overrides =>
    rw [textAfter]
    cases given : overrides[settingName q.key]? <|> q.default with
    | some text => exact ⟨text, rfl⟩
    | none =>
      simp only [ask, given] at answered
      cases answered
  | terminal => cases answered

end Respondent

namespace Question

theorem answer_of_matches {q : Question} {text : String}
    (fits : ∀ rule, q.rule = some rule → rule.pattern.isMatch text = true) :
    q.answer text = .ok (.ofText q.kind text) := by
  rw [answer, complaint?]
  cases ruled : q.rule with
  | none => rfl
  | some rule =>
    rw [Option.bind_some, if_pos (fits rule ruled)]
    rfl

theorem answer_of_not_match {q : Question} {rule : QuestionRule} {text : String} (ruled : q.rule = some rule)
    (fails : ¬ rule.pattern.isMatch text = true) :
    q.answer text = .error (.invalidConfiguration (.refusedAnswer q.key rule.error)) := by
  rw [answer, complaint?, ruled, Option.bind_some, if_neg fails]
  rfl

end Question

namespace Run

variable {seeded : Variables} {r middle last : Respondent} {p : Blueprint.Prompt} {q : Question}
  {before after : List Blueprint.Prompt} {answers : List (String × Value)} {text : String}

theorem questionOf_eq_ok (built : questionOf seeded p = .ok q) :
    Question.kindOf p = .ok q.kind ∧ Question.ruleOf p = .ok q.rule ∧
      q.default = p.default.map fun v => (Question.defaultOf seeded v).value := by
  rw [questionOf_eq] at built
  cases kind : Question.kindOf p with
  | error e => simp [kind, bind, Except.bind] at built
  | ok kind' =>
    cases rule : Question.ruleOf p with
    | error e => simp [kind, rule, bind, Except.bind] at built
    | ok rule' =>
      simp only [kind, rule] at built
      cases built
      exact ⟨rfl, rfl, rfl⟩

/-- A question has a rule just when its prompt has one whose pattern can be read. -/
theorem rule_of_ruleOf {found : Option QuestionRule} (read : Question.ruleOf p = .ok found) :
    (p.rule = none ∧ found = none) ∨
      ∃ rule pattern, p.rule = some rule ∧ Pattern.parse rule.pattern = .ok pattern ∧
        found = some ⟨rule.pattern, pattern, rule.error.getD Question.defaultComplaint⟩ := by
  rw [Question.ruleOf] at read
  cases ruled : p.rule with
  | none =>
    rw [ruled] at read
    exact .inl ⟨rfl, (Except.ok.inj read).symm⟩
  | some rule =>
    simp only [ruled] at read
    cases parsed : Pattern.parse rule.pattern with
    | error f =>
      rw [parsed] at read
      cases read
    | ok pattern =>
      rw [parsed] at read
      exact .inr ⟨rule, pattern, rfl, parsed, (Except.ok.inj read).symm⟩

variable (seeded r) in
/-- The text that answers a prompt once the prompts before it have been asked. -/
def answering (before : List Blueprint.Prompt) (p : Blueprint.Prompt) : Option String :=
  r.textAfter (before.map (·.name)) p.name (p.default.map fun v => (Question.defaultOf seeded v).value)

variable (seeded r) in
/-- A prompt that has a question, with the text that answers it and matches its pattern. -/
structure Accepted (before : List Blueprint.Prompt) (p : Blueprint.Prompt) (text : String) : Prop where
  built : ∃ q, questionOf seeded p = .ok q
  given : answering seeded r before p = some text
  matching : ∀ rule, p.rule = some rule → rule.Accepts text

theorem matches_iff (built : questionOf seeded p = .ok q) :
    (∀ rule, q.rule = some rule → rule.pattern.isMatch text = true) ↔
      ∀ rule, p.rule = some rule → rule.Accepts text := by
  obtain ⟨-, read, -⟩ := questionOf_eq_ok built
  rcases rule_of_ruleOf read with ⟨none, none'⟩ | ⟨rule, pattern, ruled, parsed, found⟩
  · simp [none, none']
  · simp [ruled, found, Blueprint.AnswerRule.Accepts, parsed]

/-- Each prompt that has been answered has taken one text from its queue. -/
theorem Interview.textAfter {prompts : List Blueprint.Prompt} (interview : Interview seeded r prompts answers last)
    (earlier : List String) (key : String) (default : Option String) :
    last.textAfter earlier key default = r.textAfter (prompts.map (·.name) ++ earlier) key default := by
  induction interview generalizing earlier with
  | nil => rfl
  | @cons r next last p prompts q a answers built answered rest ih =>
    rw [ih, show next = (r.ask q).2 by rw [answered], Respondent.textAfter_ask, key_of_questionOf built]
    rfl

theorem Interview.given_iff (interview : Interview seeded r before answers middle)
    (built : questionOf seeded p = .ok q) :
    middle.textAfter [] q.key q.default = answering seeded r before p := by
  rw [interview.textAfter, answering, List.append_nil, key_of_questionOf built, (questionOf_eq_ok built).2.2]

theorem Interview.split {prompts : List Blueprint.Prompt} (interview : Interview seeded r prompts answers last)
    (parts : prompts = before ++ p :: after) :
    ∃ front middle q a next back, Interview seeded r before front middle ∧ questionOf seeded p = .ok q ∧
      middle.ask q = (.ok a, next) ∧ Interview seeded next after back last ∧
      answers = front ++ (p.name, a.value) :: back := by
  induction before generalizing r prompts answers with
  | nil =>
    subst parts
    cases interview with
    | cons built answered rest => exact ⟨[], r, _, _, _, _, .nil r, built, answered, rest, rfl⟩
  | cons x before ih =>
    subst parts
    cases interview with
    | cons built answered rest =>
      obtain ⟨front, middle, q, a, next, back, first, found, reply, others, rfl⟩ := ih rest rfl
      exact ⟨_, middle, q, a, next, back, .cons built answered first, found, reply, others, rfl⟩

theorem Interview.map_fst {prompts : List Blueprint.Prompt} (interview : Interview seeded r prompts answers last) :
    answers.map (·.1) = prompts.map (·.name) := by
  induction interview with
  | nil => rfl
  | cons built answered rest ih => rw [List.map_cons, List.map_cons, ih]

/-- What an answered prompt has been answered with. -/
theorem Interview.accepted (interview : Interview seeded r before answers middle)
    (built : questionOf seeded p = .ok q) {a : Answer} {next : Respondent}
    (answered : middle.ask q = (.ok a, next)) :
    ∃ text, Accepted seeded r before p text ∧ a = .ofText q.kind text := by
  obtain ⟨text, given⟩ := Respondent.exists_textAfter answered
  have reply := Respondent.ask_of_textAfter given
  rw [answered] at reply
  have fits : ∀ rule, q.rule = some rule → rule.pattern.isMatch text = true := by
    intro rule ruled
    refine Decidable.of_not_not fun fails => ?_
    rw [Question.answer_of_not_match ruled fails] at reply
    cases reply
  rw [Question.answer_of_matches fits] at reply
  refine ⟨text, ⟨⟨q, built⟩, ?_, (matches_iff built).mp fits⟩, Except.ok.inj reply⟩
  rw [← interview.given_iff built, given]

/-- An accepted text is answered. -/
theorem Interview.answered (interview : Interview seeded r before answers middle)
    (accepted : Accepted seeded r before p text) :
    ∃ q a next, questionOf seeded p = .ok q ∧ middle.ask q = (.ok a, next) := by
  obtain ⟨q, built⟩ := accepted.built
  have given := (interview.given_iff built).trans accepted.given
  have reply := Respondent.ask_of_textAfter given
  rw [Question.answer_of_matches ((matches_iff built).mpr accepted.matching)] at reply
  exact ⟨q, _, _, built, Prod.ext reply rfl⟩

theorem exists_interview {prompts : List Blueprint.Prompt}
    (each : ∀ before p after, prompts = before ++ p :: after → ∃ text, Accepted seeded r before p text) :
    ∃ answers last, Interview seeded r prompts answers last := by
  rcases interview_cases r prompts with whole |
    ⟨before, p, after, answers, middle, e, shown, last, parts, interview, refused⟩
  · exact whole
  · obtain ⟨text, accepted⟩ := each before p after parts
    obtain ⟨q, a, next, built, answered⟩ := interview.answered accepted
    cases refused with
    | unbuilt unbuilt =>
      rw [built] at unbuilt
      cases unbuilt
    | unanswered built' unanswered =>
      cases Except.ok.inj (built.symm.trans built')
      rw [answered] at unanswered
      cases unanswered

/-- An answer that does not match its pattern is refused with what the rule of the prompt says. -/
theorem Interview.refused (interview : Interview seeded r before answers middle)
    (built : questionOf seeded p = .ok q) (given : answering seeded r before p = some text)
    {rule : Blueprint.AnswerRule} (ruled : p.rule = some rule) (fails : ¬ rule.Accepts text) :
    Refused seeded middle p
      (.invalidConfiguration (.refusedAnswer p.name (rule.error.getD Question.defaultComplaint)))
      (asking seeded middle p) (middle.ask q).2 := by
  obtain ⟨-, read, -⟩ := questionOf_eq_ok built
  rcases rule_of_ruleOf read with ⟨none, -⟩ | ⟨rule', pattern, ruled', parsed, found⟩
  · rw [none] at ruled
    cases ruled
  · cases Option.some.inj (ruled.symm.trans ruled')
    have reply := Respondent.ask_of_textAfter ((interview.given_iff built).trans given)
    have mismatch : ¬ pattern.isMatch text = true := fun fits => fails ⟨pattern, parsed, fits⟩
    rw [Question.answer_of_not_match found mismatch, key_of_questionOf built] at reply
    exact .unanswered built (Prod.ext reply rfl)

/-- The answers to these types of prompts are stored as they are written. -/
theorem ofText_of_isWritten {kind : QuestionKind} (written : p.IsWritten) (known : Question.kindOf p = .ok kind)
    (text : String) : Answer.ofText kind text = .text text := by
  simp only [Blueprint.Prompt.IsWritten, List.mem_cons, List.not_mem_nil, or_false] at written
  rcases written with type | type | type | type | type <;>
    simp only [Question.kindOf, type] at known <;> cases known <;> rfl

/-- The variables have the answer to the last prompt of a name. -/
theorem get?_merge_of_last {vars : Variables} {front back : List (String × Value)} {name : String} {value : Value}
    (last : ∀ answer ∈ back, answer.1 ≠ name) :
    (vars.merge (front ++ (name, value) :: back)).get? name = some value := by
  have others : back.reverse.lookup name = none := by
    rw [List.lookup_eq_none_iff]
    intro answer member
    exact bne_iff_ne.mpr (last answer (List.mem_reverse.mp member)).symm
  rw [Variables.get?_merge, List.reverse_append, List.reverse_cons, List.append_assoc, List.lookup_append, others]
  simp

/-- What the variables of a run have been read from. -/
theorem accepted_of_collect {b : Blueprint} {w w' : World} {vars : Variables}
    (done : (collect b).outcome w = (.ok vars, w')) (parts : b.prompts = before ++ p :: after) :
    ∃ kind text, Question.kindOf p = .ok kind ∧ Accepted (.seeded b.declarations) w.respondent before p text ∧
      ((∀ other ∈ after, other.name ≠ p.name) → vars.get? p.name = some (Answer.ofText kind text).value) := by
  obtain ⟨answers, r, interview, -, rfl⟩ := interview_of_collect done
  obtain ⟨front, middle, q, a, next, back, first, built, answered, others, rfl⟩ := interview.split parts
  obtain ⟨text, accepted, rfl⟩ := first.accepted built answered
  refine ⟨q.kind, text, (questionOf_eq_ok built).1, accepted, fun last => get?_merge_of_last ?_⟩
  intro answer member
  have named : answer.1 ∈ after.map (·.name) := others.map_fst ▸ List.mem_map_of_mem member
  obtain ⟨other, later, same⟩ := List.mem_map.mp named
  exact same ▸ last other later

/-- A run has its variables just when every prompt has a question and is answered by a text that matches its
pattern. For the last prompt of a name what has been stored is read from that text, and it is the text itself
for prompts whose answers are stored as they are written. When the text that answers some prompt does not match
its pattern there are no variables, and where the prompts before have been answered the run ends with what the
rule of the prompt says. -/
theorem collect_matches (b : Blueprint) (w : World) :
    let Accepted := Accepted (.seeded b.declarations) w.respondent
    let given := answering (.seeded b.declarations) w.respondent
    ((∃ vars w', (collect b).outcome w = (.ok vars, w')) ↔
      ∀ before p after, b.prompts = before ++ p :: after → ∃ text, Accepted before p text) ∧
    (∀ vars w', (collect b).outcome w = (.ok vars, w') →
      ∀ before p after text, b.prompts = before ++ p :: after → given before p = some text →
        (∀ rule, p.rule = some rule → rule.Accepts text) ∧
        ((∀ other ∈ after, other.name ≠ p.name) →
          ∃ kind, Question.kindOf p = .ok kind ∧ vars.get? p.name = some (Answer.ofText kind text).value ∧
            (p.IsWritten → vars.get? p.name = some (.text text)))) ∧
    ∀ before p after text rule, b.prompts = before ++ p :: after → given before p = some text →
      p.rule = some rule → ¬ rule.Accepts text →
      (∀ vars w', (collect b).outcome w ≠ (.ok vars, w')) ∧
      ((∃ q, questionOf (.seeded b.declarations) p = .ok q) →
        (∀ prior x rest, before = prior ++ x :: rest → ∃ text, Accepted prior x text) →
        let e := .invalidConfiguration (.refusedAnswer p.name (rule.error.getD Question.defaultComplaint))
        ∃ w', (collect b).outcome w = (.error e, w') ∧ w'.surroundings = w.surroundings ∧
          ∀ (s : CommandLine.Situation) (a : CommandLine.Arguments),
            Blueprint.load w.surroundings.files s.directory a.config = .ok b →
            (CommandLine.runBlueprint s a).outcome w = (.error e, w')) := by
  intro Accepted given
  refine ⟨⟨fun ⟨vars, w', done⟩ before p after parts => ?_, fun each => ?_⟩, ?_, ?_⟩
  · obtain ⟨kind, text, -, accepted, -⟩ := accepted_of_collect done parts
    exact ⟨text, accepted⟩
  · obtain ⟨answers, last, interview⟩ := exists_interview each
    exact ⟨_, _, outcome_collect_of_interview interview⟩
  · intro vars w' done before p after text parts same
    obtain ⟨kind, text', known, accepted, value⟩ := accepted_of_collect done parts
    cases Option.some.inj (same.symm.trans accepted.given)
    refine ⟨accepted.matching, fun last => ⟨kind, known, value last, fun written => ?_⟩⟩
    rw [value last, ofText_of_isWritten written known, Answer.value]
  · intro before p after text rule parts same ruled fails
    refine ⟨fun vars w' done => ?_, fun ⟨q, built⟩ each => ?_⟩
    · obtain ⟨kind, text', -, accepted, -⟩ := accepted_of_collect done parts
      cases Option.some.inj (same.symm.trans accepted.given)
      exact fails (accepted.matching rule ruled)
    · obtain ⟨answers, middle, interview⟩ := exists_interview each
      have stop := outcome_collect_of_refused parts interview (interview.refused built same ruled fails)
      exact ⟨_, stop, rfl, fun s a loaded => outcome_runBlueprint_of_error loaded stop⟩

end Run

end Scaffold
