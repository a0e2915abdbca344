import Mathlib.Data.List.Nodup
import Mathlib.Data.List.Perm.Basic
import Scaffold.Proofs.Run.Interview

/-! Prompts in another order. Respondents answer questions with different keys independently of each
other, and no answer enters a later question, so that prompts with different names come to the same
variables in every order. -/
namespace Scaffold

/-! Answers to different keys. -/

theorem Script.reply_take {key other : String} (different : other ≠ key) (s : Script) :
    ((s.take key).2.take other).1 = (s.take other).1 := by
  rcases queued : s.queues[key]? with _ | ⟨_ | ⟨answer, rest⟩⟩
  · simp [take, queued]
  · simp [take, queued]
  · have same : (s.queues.insert key rest)[other]? = s.queues[other]? := by
      simp [Std.ExtTreeMap.getElem?_insert, Ne.symm different]
    have first : (s.take key).2 = { s with queues := s.queues.insert key rest } := by
      simp [take, queued]
    rw [first, take, take, same]
    split <;> rfl

namespace Respondent

theorem reply_ask {q other : Question} (different : other.key ≠ q.key) (r : Respondent) :
    ((r.ask q).2.ask other).1 = (r.ask other).1 := by
  cases r with
  | script s => simp only [ask, Script.reply_take different]
  | environment overrides =>
    have kept : ((environment overrides).ask q).2 = environment overrides := by
      simp only [ask]
      split <;> rfl
    rw [kept]
  | terminal => rfl

end Respondent

namespace Variables

theorem ext_get? {vars others : Variables} (same : ∀ name, vars.get? name = others.get? name) :
    vars = others :=
  congrArg Variables.mk (Std.ExtTreeMap.ext_getElem? fun {name} => same name)

theorem insert_comm {key other : String} (different : key ≠ other) (vars : Variables) (value more : Value) :
    (vars.insert key value).insert other more = (vars.insert other more).insert key value := by
  refine ext_get? fun name => ?_
  simp only [get?_insert]
  split
  · next last => rw [if_neg fun first => different (first.trans last.symm)]
  · rfl

/-- Answers with different names are stored in any order. -/
theorem merge_perm {answers others : List (String × Value)} (names : (answers.map Prod.fst).Nodup)
    (order : answers.Perm others) (vars : Variables) : vars.merge answers = vars.merge others := by
  refine order.foldl_eq' ?_ vars
  intro x first y second vars
  by_cases same : x.1 = y.1
  · rw [List.inj_on_of_nodup_map names first second same]
  · exact insert_comm same vars x.2 y.2

end Variables

namespace Run

variable {seeded : Variables}

/-- How a respondent answers the question of a prompt. -/
def Answers (seeded : Variables) (r : Respondent) (p : Blueprint.Prompt) (answer : String × Value) : Prop :=
  ∃ q a, questionOf seeded p = .ok q ∧ (r.ask q).1 = .ok a ∧ answer = (p.name, a.value)

theorem answers_ask {p : Blueprint.Prompt} {q : Question} (different : p.name ≠ q.key) (r : Respondent)
    (answer : String × Value) : Answers seeded (r.ask q).2 p answer ↔ Answers seeded r p answer := by
  have same (other : Question) (built : questionOf seeded p = .ok other) :
      ((r.ask q).2.ask other).1 = (r.ask other).1 :=
    Respondent.reply_ask (fun key => different ((key_of_questionOf built).symm.trans key)) r
  constructor
  · rintro ⟨other, a, built, reply, stored⟩
    exact ⟨other, a, built, (same other built).symm.trans reply, stored⟩
  · rintro ⟨other, a, built, reply, stored⟩
    exact ⟨other, a, built, (same other built).trans reply, stored⟩

theorem forall_answers_ask {prompts : List Blueprint.Prompt} {q : Question}
    (different : ∀ p ∈ prompts, p.name ≠ q.key) (r : Respondent) (answers : List (String × Value)) :
    List.Forall₂ (Answers seeded (r.ask q).2) prompts answers ↔
      List.Forall₂ (Answers seeded r) prompts answers := by
  induction prompts generalizing answers with
  | nil => simp only [List.forall₂_nil_left_iff]
  | cons p prompts ih =>
    obtain ⟨first, others⟩ := List.forall_mem_cons.mp different
    simp only [List.forall₂_cons_left_iff, answers_ask first, ih others]

theorem names_of_answers {prompts : List Blueprint.Prompt} {r : Respondent}
    {answers : List (String × Value)} (each : List.Forall₂ (Answers seeded r) prompts answers) :
    answers.map Prod.fst = prompts.map Blueprint.Prompt.name := by
  induction each with
  | nil => rfl
  | cons first _ ih =>
    obtain ⟨q, a, -, -, rfl⟩ := first
    rw [List.map_cons, List.map_cons, ih]

/-- Prompts with different names are answered one after another exactly if each of them could be answered
as the first one. -/
theorem interview_iff {prompts : List Blueprint.Prompt} (names : (prompts.map Blueprint.Prompt.name).Nodup)
    {r : Respondent} {answers : List (String × Value)} :
    (∃ last, Interview seeded r prompts answers last) ↔ List.Forall₂ (Answers seeded r) prompts answers := by
  induction prompts generalizing r answers with
  | nil =>
    constructor
    · rintro ⟨last, ⟨⟩⟩
      exact .nil
    · rintro ⟨⟩
      exact ⟨r, .nil r⟩
  | cons p prompts ih =>
    obtain ⟨fresh, names⟩ := List.nodup_cons.mp names
    have others {q : Question} (built : questionOf seeded p = .ok q) : ∀ x ∈ prompts, x.name ≠ q.key := by
      intro x member key
      rw [key_of_questionOf built] at key
      exact fresh (key ▸ List.mem_map_of_mem member)
    constructor
    · rintro ⟨last, interview⟩
      cases interview with
      | @cons _ next _ _ _ q a answers built answered rest =>
        obtain rfl : (r.ask q).2 = next := congrArg Prod.snd answered
        have later := (ih names).mp ⟨last, rest⟩
        exact .cons ⟨q, a, built, congrArg Prod.fst answered, rfl⟩
          ((forall_answers_ask (others built) r _).mp later)
    · intro each
      cases each with
      | cons first later =>
        obtain ⟨q, a, built, reply, rfl⟩ := first
        obtain ⟨last, rest⟩ := (ih names).mpr ((forall_answers_ask (others built) r _).mpr later)
        exact ⟨last, .cons built (Prod.ext reply rfl) rest⟩

theorem collect_of_perm {b : Blueprint} {prompts : List Blueprint.Prompt} {w v : World} {vars : Variables}
    (names : (b.prompts.map Blueprint.Prompt.name).Nodup) (order : b.prompts.Perm prompts)
    (same : w.respondent = v.respondent) (done : ((collect b).outcome w).1 = .ok vars) :
    ((collect { b with prompts := prompts }).outcome v).1 = .ok vars := by
  obtain ⟨answers, last, interview, -, rfl⟩ := interview_of_collect (Prod.ext done rfl)
  have each := (interview_iff names).mp ⟨last, interview⟩
  -- Each prompt keeps its answer, so that the answers come in the order of the prompts.
  obtain ⟨others, each', moved⟩ := List.perm_comp_forall₂ order.symm each
  have stored : (others.map Prod.fst).Nodup := by
    rw [names_of_answers each']
    exact (order.map _).nodup_iff.mp names
  obtain ⟨last', interview'⟩ := (interview_iff ((order.map _).nodup_iff.mp names)).mpr each'
  rw [same] at interview'
  rw [outcome_collect_of_interview interview', Variables.merge_perm stored moved]

/-- Prompts with different names that are asked in another order are answered in both orders or in none,
and come to the same variables. -/
theorem collect_perm {b : Blueprint} {prompts : List Blueprint.Prompt} {w v : World}
    (names : (b.prompts.map Blueprint.Prompt.name).Nodup) (order : b.prompts.Perm prompts)
    (same : w.respondent = v.respondent) :
    ((∃ vars, ((collect b).outcome w).1 = .ok vars) ↔
      ∃ vars, ((collect { b with prompts := prompts }).outcome v).1 = .ok vars) ∧
    ∀ vars others, ((collect b).outcome w).1 = .ok vars →
      ((collect { b with prompts := prompts }).outcome v).1 = .ok others →
      ∀ name, vars.get? name = others.get? name := by
  have names' : (prompts.map Blueprint.Prompt.name).Nodup := (order.map _).nodup_iff.mp names
  refine ⟨⟨?_, ?_⟩, ?_⟩
  · rintro ⟨vars, done⟩
    exact ⟨vars, collect_of_perm names order same done⟩
  · rintro ⟨vars, done⟩
    exact ⟨vars, collect_of_perm (b := { b with prompts := prompts }) names' order.symm same.symm done⟩
  · intro vars others done done'
    have stored := (collect_of_perm names order same done).symm.trans done'
    obtain rfl := Except.ok.inj stored
    exact fun name => rfl

theorem collect_perm_of_two_prompts :
    let name : Blueprint.Prompt := ⟨"input", "name", "Name?", [], none, none⟩
    let git : Blueprint.Prompt := ⟨"confirm", "git", "Git?", [], some (.flag true), none⟩
    let b := { Blueprint.empty with prompts := [name, git] }
    let script : Script := ⟨(∅ : Std.ExtTreeMap String String).insert "git" "no",
      (∅ : Std.ExtTreeMap String (List String)).insert "name" ["demo"]⟩
    let w : World := ⟨⟨.empty, [], .typed []⟩, [], id, .script script, []⟩
    (b.prompts.map Blueprint.Prompt.name).Nodup ∧ b.prompts.Perm [git, name] ∧
      ∃ vars others, ((collect b).outcome w).1 = .ok vars ∧
        ((collect { b with prompts := [git, name] }).outcome w).1 = .ok others ∧
        vars.get? "name" = some (.text "demo") ∧ others.get? "name" = some (.text "demo") := by
  intro name git b script w
  have names : (b.prompts.map Blueprint.Prompt.name).Nodup := by decide
  have order : b.prompts.Perm [git, name] := .swap git name []
  have read : ((collect b).outcome w).1.toOption.bind (·.get? "name") = some (.text "demo") := by
    decide +kernel
  rcases done : ((collect b).outcome w).1 with e | vars
  · simp [done, Except.toOption] at read
  · obtain ⟨both, equal⟩ := collect_perm (v := w) names order rfl
    obtain ⟨others, done'⟩ := both.mp ⟨vars, done⟩
    have stored : vars.get? "name" = some (.text "demo") := by simpa [done, Except.toOption] using read
    have same := equal vars others done done' "name"
    exact ⟨names, order, vars, others, rfl, done', stored, same.symm.trans stored⟩

end Run

end Scaffold
