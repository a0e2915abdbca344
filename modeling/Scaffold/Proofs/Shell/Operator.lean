import Mathlib.Data.List.Infix
import Scaffold.Proofs.Shell.Dialogue

/-! Where the lines of the operator go when interactive commands follow each other. A line that the relay
has in its hand once the command has closed its output is told behind the end and lost; every other line
reaches the command whose relay took it, or is still there for the next one. -/
namespace Scaffold.Dialogue

/-- The lines that are told behind the end of the output. -/
def behind : List Event → List String
  | [] => []
  | .closed :: events => typed events
  | .printed _ :: events => behind events
  | .typed _ :: events => behind events

theorem behind_append_of_mem {events : List Event} (closed : .closed ∈ events) (more : List Event) :
    behind (events ++ more) = behind events ++ typed more := by
  induction events with
  | nil => cases closed
  | cons e events ih =>
    cases e with
    | printed piece => exact ih (by simpa using closed)
    | typed line => exact ih (by simpa using closed)
    | closed => exact typed_append events more

theorem behind_append_of_notMem {events : List Event} (going : .closed ∉ events) (more : List Event) :
    behind (events ++ more) = behind more := by
  induction events with
  | nil => rfl
  | cons e events ih =>
    cases e with
    | printed piece => exact ih (by simpa using going)
    | typed line => exact ih (by simpa using going)
    | closed => simp at going

namespace State

/-- The lines that the relay has told, or holds, behind the end of the output. -/
def late (s : State) : List String := behind s.told ++ if s.isClosed then s.relay.line?.toList else []

section Late

variable {interactions : List Blueprint.Interaction}

theorem late_of_open {lines : List String} {s : State} (sound : Sound interactions lines s)
    (isOpen : s.isClosed = false) : s.late = [] := by
  have going : .closed ∉ s.told := by simp [← sound.closed, isOpen]
  have nothing := behind_append_of_notMem going []
  rw [List.append_nil] at nothing
  simp [late, isOpen, nothing, behind]

theorem idle_of_late {s : State} (none : s.late = []) (closed : s.isClosed = true) :
    s.relay.line? = .none := by
  simp only [late, closed, if_true, List.append_eq_nil_iff, Option.toList_eq_nil_iff] at none
  exact none.2

/-- A line only becomes late when the relay has it in its hand. -/
theorem late_move {lines : List String} {s : State} (sound : Sound interactions lines s) (m : Move) :
    (s.move interactions m).late = s.late ∨ (s.move interactions m).isClosed = true ∧
      ∃ line, (s.move interactions m).relay.line? = some line ∧
        (s.move interactions m).late = s.late ++ [line] := by
  -- Only closing with a line in the hand of the relay, and taking one afterwards, make a line late;
  -- telling it leaves it so.
  have closed := sound.closed
  have after := sound.move m
  have moved := moved interactions s m
  generalize s.move interactions m = t at moved after
  cases moved with
  | idle => exact .inl rfl
  | print isOpen => exact .inl ((late_of_open after isOpen).trans (late_of_open sound isOpen).symm)
  | close isOpen =>
    have going : .closed ∉ s.told := by simp [← closed, isOpen]
    have ended := behind_append_of_notMem going [.closed]
    simp only [told, List.append_assoc] at ended
    rw [late_of_open sound isOpen]
    cases held : s.relay.line? with
    | none => simp [late, told, ended, behind, held]
    | some line => simp [late, told, ended, behind, held]
  | wait checking ongoing => simp [late, told, checking, Relay.line?]
  | stop checking ended => simp [late, told, checking, Relay.line?]
  | take waiting queued =>
    cases isClosed : s.isClosed with
    | false => simp [late, told, isClosed]
    | true => simp [late, told, isClosed, waiting, Relay.line?]
  | giveUp waiting => simp [late, told, waiting, Relay.line?]
  | leave waiting empty => simp [late, told, waiting, Relay.line?]
  | @tell line holding =>
    left
    cases isClosed : s.isClosed with
    | false =>
      rw [isClosed] at after
      exact (late_of_open after rfl).trans (late_of_open sound isClosed).symm
    | true =>
      have more := behind_append_of_mem (closed.mp isClosed) [.typed line]
      simp only [told, List.append_assoc] at more
      simp [late, told, isClosed, more, holding, Relay.line?, Event.line?]
  | receive ongoing arriving => simp [late, told, arriving]

/-- Nothing is late exactly if the relay never has a line in its hand while the output is closed. -/
theorem late_after_eq_nil_iff {lines : List String} {s : State} (sound : Sound interactions lines s)
    (moves : List Move) :
    (s.after interactions moves).late = [] ↔
      s.late = [] ∧ ∀ before ∈ moves.inits, (s.after interactions before).isClosed = true →
        (s.after interactions before).relay.line? = none := by
  induction moves generalizing s with
  | nil => simpa [after] using idle_of_late
  | cons m moves ih =>
    have step : (s.move interactions m).late = [] ↔ s.late = [] ∧
        ((s.move interactions m).isClosed = true → (s.move interactions m).relay.line? = none) := by
      rcases late_move sound m with same | ⟨closed, line, held, more⟩
      · rw [same]
        exact ⟨fun none => ⟨none, idle_of_late (same.trans none)⟩, And.left⟩
      · simp [more, closed, held]
    refine (ih (sound.move m)).trans ?_
    rw [step]
    simp only [List.mem_inits, after, and_assoc, List.inits, List.mem_cons, List.mem_map, forall_eq_or_imp,
      List.foldl_nil, forall_exists_index, and_imp, forall_apply_eq_imp_iff₂, List.foldl_cons,
      and_congr_right_iff, and_congr_left_iff]
    intro none rest
    exact ⟨fun _ => idle_of_late none, fun _ => rest [] List.nil_prefix⟩

/-- At the end the late lines are those that nobody has received. -/
theorem Sound.late_eq {lines : List String} {s : State} (sound : Sound interactions lines s)
    (finished : s.isFinished = true) : s.late = typed s.channel := by
  simp only [isFinished, Bool.and_eq_true, decide_eq_true_eq] at finished
  obtain ⟨ended, stopped⟩ := finished
  obtain ⟨before, received, going⟩ := sound.finish ended
  have split : s.told = before ++ .closed :: s.channel := by simp [told, received]
  simp [late, split, stopped, Relay.line?, behind_append_of_notMem going, behind]

end Late

end State

/-- What goes on while one interactive command runs, from the lines that it finds. -/
structure Talk where
  interactions : List Blueprint.Interaction
  queue : List String
  moves : List Move

namespace Talk

def last (t : Talk) : State := (State.start t.queue).after t.interactions t.moves

def answers (t : Talk) : List String :=
  (printed t.last.received.toList).flatMap fun piece => (answer? t.interactions (pieceText piece)).toList

/-- The lines of the operator that the loop has received. -/
def relayed (t : Talk) : List String := typed t.last.received.toList

/-- The lines that the relay has told and nobody has received. -/
def lost (t : Talk) : List String := typed t.last.channel

def handed (t : Talk) : List String := t.last.received.toList.flatMap (replies t.interactions)

/-- Whether the relay never has a line in its hand while the output is closed. -/
def IsPunctual (t : Talk) : Prop :=
  ∀ before ∈ t.moves.inits, ((State.start t.queue).after t.interactions before).isClosed = true →
    ((State.start t.queue).after t.interactions before).relay.line? = none

theorem sound (t : Talk) : State.Sound t.interactions t.queue t.last :=
  (State.Sound.start t.queue).after t.moves

theorem queue_eq (t : Talk) (finished : t.last.isFinished = true) :
    t.queue = t.relayed ++ t.lost ++ t.last.queue := by
  simp only [State.isFinished, Bool.and_eq_true, decide_eq_true_eq] at finished
  have lines := t.sound.lines
  rw [finished.2] at lines
  simpa [relayed, lost, State.told, Relay.line?] using lines.symm

theorem lost_eq_nil_iff (t : Talk) (finished : t.last.isFinished = true) : t.lost = [] ↔ t.IsPunctual := by
  have start : State.Sound t.interactions t.queue (State.start t.queue) := .start t.queue
  have nothing : (State.start t.queue).late = [] := rfl
  rw [lost, ← t.sound.late_eq finished, last, State.late_after_eq_nil_iff start t.moves]
  exact and_iff_right nothing

end Talk

/-- Commands that run one after another, each with the lines that the one before has left. -/
inductive Consecutive : List String → List Talk → List String → Prop
  | nil (queue : List String) : Consecutive queue [] queue
  | cons {talk : Talk} {talks : List Talk} {rest : List String}
    (finished : talk.last.isFinished = true) (others : Consecutive talk.last.queue talks rest) :
    Consecutive talk.queue (talk :: talks) rest

section Consecutive

variable {queue rest : List String} {talks : List Talk}

theorem Consecutive.finished (run : Consecutive queue talks rest) :
    ∀ talk ∈ talks, talk.last.isFinished = true := by
  induction run with
  | nil => exact List.forall_mem_nil _
  | cons finished _ ih => exact List.forall_mem_cons.mpr ⟨finished, ih⟩

theorem Consecutive.queue_eq (run : Consecutive queue talks rest) :
    queue = talks.flatMap (fun talk => talk.relayed ++ talk.lost) ++ rest := by
  induction run with
  | nil => rfl
  | @cons talk talks rest finished others ih =>
    calc talk.queue
      _ = talk.relayed ++ talk.lost ++ talk.last.queue := talk.queue_eq finished
      _ = (talk :: talks).flatMap (fun talk => talk.relayed ++ talk.lost) ++ rest := by
        rw [ih, List.flatMap_cons, List.append_assoc _ _ rest]

/-- Each line of the operator is handed to the command whose relay took it, told to that command behind
the end of its output, or left for the next command, and all stay in order. None is told too late exactly
if the relay never has one in its hand while the output is closed. -/
theorem operator_lines (run : Consecutive queue talks rest) :
    queue = talks.flatMap (fun talk => talk.relayed ++ talk.lost) ++ rest ∧
    (∀ talk ∈ talks, (talk.lost = [] ↔ talk.IsPunctual) ∧
      talk.last.handed.toList = talk.handed.flatMap (fun line => line.toUTF8.data.toList ++ [10]) ∧
      Interleaving talk.answers talk.relayed talk.handed) ∧
    ((∀ talk ∈ talks, talk.IsPunctual) → queue = talks.flatMap Talk.relayed ++ rest ∧
      ∀ talk ∈ talks, talk.queue = talk.relayed ++ talk.last.queue) := by
  have lines := run.queue_eq
  have finished := run.finished
  refine ⟨lines, fun talk member => ⟨talk.lost_eq_nil_iff (finished talk member), ?_,
    interleaving_replies ..⟩, fun punctual => ?_⟩
  · rw [talk.sound.handed, funext lineBytes_eq]
    rfl
  · have kept : ∀ talk ∈ talks, talk.lost = [] := fun talk member =>
      (talk.lost_eq_nil_iff (finished talk member)).mpr (punctual talk member)
    constructor
    · rw [lines, List.flatMap_congr fun talk member => by rw [kept talk member, List.append_nil]]
    · intro talk member
      have all := talk.queue_eq (finished talk member)
      rwa [kept talk member, List.append_nil] at all

end Consecutive

theorem operator_lines_of_two_commands :
    let first : Talk := ⟨[⟨"Name?", "demo"⟩], ["one", "two", "three"],
      [.check, .take, .print "Name? ".toUTF8.data.toList, .tell, .receive, .receive, .check, .close, .receive,
        .giveUp, .check]⟩
    let second : Talk := ⟨[], ["two", "three"],
      [.check, .take, .tell, .close, .receive, .receive, .check]⟩
    Consecutive ["one", "two", "three"] [first, second] ["three"] ∧
      (∀ talk ∈ [first, second], talk.IsPunctual) ∧
      ["one", "two", "three"] = [first, second].flatMap Talk.relayed ++ ["three"] ∧
      first.handed = ["demo", "one"] ∧ second.handed = ["two"] := by
  intro first second
  have passed : first.last.queue = second.queue := by decide +kernel
  have ended : second.last.queue = ["three"] := by decide +kernel
  have run : Consecutive first.queue [first, second] ["three"] := by
    refine .cons (by decide +kernel) ?_
    rw [passed]
    refine .cons (by decide +kernel) ?_
    rw [ended]
    exact .nil _
  have punctual : ∀ talk ∈ [first, second], talk.IsPunctual := by
    simp only [Talk.IsPunctual]
    decide +kernel
  exact ⟨run, punctual, ((operator_lines run).2.2 punctual).1, by decide +kernel, by decide +kernel⟩

/-- The relay takes a line before it sees that it has to stop. -/
theorem operator_line_lost :
    let talk : Talk := ⟨[], ["late"], [.check, .close, .receive, .take, .tell, .check]⟩
    Consecutive ["late"] [talk] [] ∧ talk.last.handed = #[] ∧
      ["late"] ≠ [talk].flatMap Talk.relayed ++ [] := by
  intro talk
  have finished : talk.last.isFinished = true := by decide
  exact ⟨.cons finished (.nil _), by decide, by decide⟩

end Scaffold.Dialogue
