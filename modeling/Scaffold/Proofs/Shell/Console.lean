import Scaffold.Proofs.Shell.Operator
import Scaffold.Shell.Console

/-! What shells do with the console of a command. With the dialogue of an interactive command they only
make moves of its parties, and at its end the loop and the relay have ended. So commands that run one
after another hand the lines of the operator on to each other. -/
namespace Scaffold

namespace Dialogue.State

variable {interactions : List Blueprint.Interaction}

theorem exists_relayed (n : Nat) (s : State) :
    ∃ moves, relayed interactions n s = s.after interactions moves := by
  induction n generalizing s with
  | zero => exact ⟨[], rfl⟩
  | succ n ih =>
    obtain ⟨moves, same⟩ := ih (s.after interactions [.check, .take, .tell, .receive])
    exact ⟨[.check, .take, .tell, .receive] ++ moves, same.trans (after_append ..).symm⟩

/-- Once the loop has ended, the relay ends too, with a line or without one. -/
theorem isFinished_of_isOver {s : State} (ended : s.isOver = true) :
    (s.after interactions [.take, .tell, .giveUp, .check]).isFinished = true := by
  obtain ⟨queue, relay, isClosed, channel, received, handed, isOver⟩ := s
  cases relay with
  | checking => simp_all [after, move, isFinished]
  | waiting => cases queue <;> simp_all [after, move, isFinished]
  | holding line => simp_all [after, move, isFinished]
  | stopped => simp_all [after, move, isFinished]

theorem isFinished_ended {lines : List String} {s : State} (sound : Sound interactions lines s) :
    (s.ended interactions).isFinished = true := by
  have checked : (s.move interactions .check).channel = s.channel := by
    simp only [move]
    split <;> rfl
  have closed (t : State) : (t.move interactions .close).isClosed = true ∧
      (t.move interactions .close).channel.length ≤ t.channel.length + 1 := by
    simp only [move]
    split
    · next closed => exact ⟨closed, Nat.le_succ _⟩
    · simp
  have closing := (sound.move .check).move .close
  obtain ⟨isClosed, enough⟩ := closed (s.move interactions .check)
  rw [checked] at enough
  have coming := closing.closed.mp isClosed
  -- There are as many receipts as events, so the loop comes to the end of the output.
  simp only [State.ended, after_append]
  refine isFinished_of_isOver (isOver_of_receipts ?_ enough)
  rcases List.mem_append.mp coming with received | waiting
  · exact .inl ((Bool.eq_false_or_eq_true _).resolve_right fun ongoing => closing.going ongoing received)
  · exact .inr waiting

end Dialogue.State

namespace Shell.Console

open Dialogue (Consecutive State Talk)

variable {c next last : Console}

/-! Lines of an input. -/

theorem drop_dropWhile (p : UInt8 → Bool) (b : UInt8) (bytes : List UInt8) :
    ((b :: bytes).dropWhile p).drop 1 = bytes.drop ((b :: bytes).takeWhile p).length := by
  have cut : (b :: bytes).takeWhile p ++ (b :: bytes).dropWhile p = b :: bytes :=
    List.takeWhile_append_dropWhile
  have rest : (b :: bytes).drop ((b :: bytes).takeWhile p).length = (b :: bytes).dropWhile p :=
    (congrArg (List.drop _) cut).symm.trans List.drop_left
  rw [← rest, List.drop_drop]
  rfl

theorem inputLines_afterLines (n : Nat) (bytes : List UInt8) :
    inputLines (afterLines n bytes) = (inputLines bytes).drop n := by
  induction n generalizing bytes with
  | zero => rfl
  | succ n ih =>
    rw [afterLines, ih]
    cases bytes with
    | nil => simp [inputLines]
    | cons b bytes => rw [drop_dropWhile, inputLines, List.drop_succ_cons]

/-! What becomes of a console. -/

/-- The dialogue of an interactive command goes on by moves, and only another command takes anything from
the process's input. -/
structure GoesOn (c next : Console) : Prop where
  interactions : next.interactions = c.interactions
  operator : next.operator = c.operator
  input : ∀ is, c.interactions = some is → next.input = c.input
  dialogue : ∀ is, c.interactions = some is → ∃ moves, next.dialogue = c.dialogue.after is moves

namespace GoesOn

theorem refl (c : Console) : GoesOn c c := ⟨rfl, rfl, fun _ _ => rfl, fun _ _ => ⟨[], rfl⟩⟩

theorem trans (first : GoesOn c next) (second : GoesOn next last) : GoesOn c last where
  interactions := second.interactions.trans first.interactions
  operator := second.operator.trans first.operator
  input is given := (second.input is (first.interactions.trans given)).trans (first.input is given)
  dialogue is given := by
    obtain ⟨moves, before⟩ := first.dialogue is given
    obtain ⟨more, after⟩ := second.dialogue is (first.interactions.trans given)
    exact ⟨moves ++ more, by rw [after, before, State.after_append]⟩

theorem ofNone (plain : c.interactions = none) (interactions : next.interactions = c.interactions)
    (operator : next.operator = c.operator) : GoesOn c next :=
  ⟨interactions, operator, fun _ given => (nomatch plain.symm.trans given),
    fun _ given => (nomatch plain.symm.trans given)⟩

theorem ofSome {is : List Blueprint.Interaction} (given : c.interactions = some is)
    (interactions : next.interactions = c.interactions) (operator : next.operator = c.operator)
    (input : next.input = c.input) (going : ∃ moves, next.dialogue = c.dialogue.after is moves) :
    GoesOn c next := by
  refine ⟨interactions, operator, fun _ _ => input, fun is' given' => ?_⟩
  obtain rfl : is = is' := Option.some.inj (given.symm.trans given')
  exact going

end GoesOn

theorem goesOn_goOn (c : Console) {f : List Blueprint.Interaction → State → State}
    (going : ∀ is s, ∃ moves, f is s = s.after is moves) : GoesOn c (c.goOn f) := by
  cases given : c.interactions with
  | none =>
    simp only [goOn, given]
    exact .refl c
  | some is =>
    simp only [goOn, given]
    exact .ofSome given given.symm rfl rfl (going is c.dialogue)

theorem goesOn_printed (c : Console) (printed : List Printed) : GoesOn c { c with printed := printed } :=
  ⟨rfl, rfl, fun _ _ => rfl, fun _ _ => ⟨[], rfl⟩⟩

theorem goesOn_write (c : Console) (bytes : List UInt8) : GoesOn c (c.write bytes) := by
  simp only [write]
  split
  · exact .refl c
  · exact (goesOn_goOn c fun is s => ⟨_, rfl⟩).trans (goesOn_printed _ _)

theorem goesOn_writeError (c : Console) (bytes : List UInt8) : GoesOn c (c.writeError bytes) := by
  simp only [writeError]
  split
  · exact .refl c
  · exact goesOn_printed c _

theorem goesOn_pause (c : Console) : GoesOn c c.pause := goesOn_goOn c fun _ _ => State.exists_relayed _ _

theorem goesOn_close (c : Console) : GoesOn c c.close := goesOn_goOn c fun _ _ => ⟨_, rfl⟩

theorem goesOn_readByte? {b : UInt8} (found : c.readByte? = some (b, next)) : GoesOn c next := by
  cases given : c.interactions with
  | none =>
    simp only [readByte?, given] at found
    split at found
    · cases found
    · obtain ⟨-, rfl⟩ := Prod.mk.inj (Option.some.inj found)
      exact .ofNone given given.symm rfl
  | some is =>
    simp only [readByte?, given] at found
    obtain ⟨b, -, same⟩ := Option.map_eq_some_iff.mp found
    obtain ⟨-, rfl⟩ := Prod.mk.inj same
    split
    · exact .ofSome given rfl rfl rfl ⟨[], rfl⟩
    · exact .ofSome given given.symm rfl rfl (State.exists_relayed 1 c.dialogue)

theorem goesOn_readAll (c : Console) : GoesOn c c.readAll.2 := by
  cases given : c.interactions with
  | none =>
    simp only [readAll, given]
    exact .ofNone given given.symm rfl
  | some is =>
    simp only [readAll, given]
    exact .ofSome given given.symm rfl rfl (State.exists_relayed _ c.dialogue)

/-! A whole run. -/

inductive Operation where
  | write (bytes : List UInt8)
  | writeError (bytes : List UInt8)
  | pause
  | readByte
  | readAll
  /-- Bytes that were read last go back to the process's input. -/
  | giveBack (bytes : List UInt8)
  | close

def perform (c : Console) : Operation → Console
  | .write bytes => c.write bytes
  | .writeError bytes => c.writeError bytes
  | .pause => c.pause
  | .readByte => c.readByte?.elim c Prod.snd
  | .readAll => c.readAll.2
  | .giveBack bytes => if c.interactions.isNone then { c with input := bytes ++ c.input } else c
  | .close => c.close

def after (c : Console) (operations : List Operation) : Console := operations.foldl perform c

theorem goesOn_perform (c : Console) (o : Operation) : GoesOn c (c.perform o) := by
  cases o with
  | write bytes => exact goesOn_write c bytes
  | writeError bytes => exact goesOn_writeError c bytes
  | pause => exact goesOn_pause c
  | readByte =>
    cases found : c.readByte? with
    | none => simpa [perform, found] using GoesOn.refl c
    | some read => simpa [perform, found] using goesOn_readByte? found
  | readAll => exact goesOn_readAll c
  | giveBack bytes =>
    rw [perform]
    split
    · next plain => exact .ofNone (Option.isNone_iff_eq_none.mp plain) rfl rfl
    · exact .refl c
  | close => exact goesOn_close c

theorem goesOn_after (c : Console) (operations : List Operation) : GoesOn c (c.after operations) := by
  induction operations generalizing c with
  | nil => exact .refl c
  | cons o operations ih => exact (goesOn_perform c o).trans (ih (c.perform o))

/-! The end of a command. -/

theorem queue_suffix (talk : Talk) (finished : talk.last.isFinished = true) :
    talk.queue.drop (talk.queue.length - talk.last.queue.length) = talk.last.queue := by
  have lines := talk.queue_eq finished
  generalize talk.last.queue = rest at lines ⊢
  rw [lines, List.length_append, Nat.add_sub_cancel, List.drop_left]

/-- What is left to the operator are the lines that the dialogue leaves in the queue. -/
theorem operatorLines_left {s : Surroundings} {talk : Talk} (files : FileTree)
    (interactive : c.interactions = some talk.interactions) (operator : c.operator = s.operator)
    (input : c.input = s.input) (dialogue : c.dialogue = talk.last) (queue : talk.queue = operatorLines s)
    (finished : talk.last.isFinished = true) :
    operatorLines ⟨files, c.left.1, c.left.2⟩ = talk.last.queue := by
  cases typed : s.operator with
  | typed lines => simp [left, interactive, operator, typed, dialogue, operatorLines]
  | input =>
    have lines : talk.queue = (inputLines s.input).map Dialogue.pieceText := by
      simp [queue, operatorLines, typed]
    have rest := queue_suffix talk finished
    rw [lines, List.length_map, ← List.map_drop, ← inputLines_afterLines] at rest
    simpa [left, interactive, operator, typed, input, dialogue, operatorLines] using rest

theorem exists_talk_of_goesOn {s : Surroundings} {is : List Blueprint.Interaction}
    (going : GoesOn (start (some is) s) c) :
    ∃ talk : Talk, talk.interactions = is ∧ talk.queue = operatorLines s ∧ talk.last.isFinished = true ∧
      c.close.dialogue = talk.last := by
  obtain ⟨moves, begun⟩ : ∃ moves,
      (start (some is) s).dialogue = (State.start (operatorLines s)).after is moves :=
    State.exists_relayed _ _
  obtain ⟨more, before⟩ := going.dialogue is rfl
  have sound : State.Sound is (operatorLines s) c.dialogue := by
    rw [before, begun]
    exact ((State.Sound.start _).after moves).after more
  have closed : c.close.dialogue = c.dialogue.ended is := by
    simp [close, goOn, show c.interactions = some is from going.interactions]
  obtain ⟨ending, after⟩ : ∃ ending, c.dialogue.ended is = c.dialogue.after is ending := ⟨_, rfl⟩
  have last : Talk.last ⟨is, operatorLines s, moves ++ more ++ ending⟩ = c.dialogue.ended is := by
    rw [after, before, begun, Talk.last, State.after_append, State.after_append]
  exact ⟨⟨is, operatorLines s, moves ++ more ++ ending⟩, rfl, rfl, last ▸ State.isFinished_ended sound,
    closed.trans last.symm⟩

/-- A command: its scripted answers, what its shell does with the console, and the end. -/
structure Use where
  interactions : Option (List Blueprint.Interaction)
  operations : List Operation
  files : FileTree
  code : Option Nat

namespace Use

def finished (u : Use) (s : Surroundings) : Finished :=
  ((start u.interactions s).after u.operations).finish u.files u.code

/-- An interactive command has had a dialogue with the lines of the operator, which has come to its end.
The lines that nobody has taken are left to the operator. -/
theorem exists_talk (u : Use) (s : Surroundings) {is : List Blueprint.Interaction}
    (given : u.interactions = some is) :
    ∃ talk : Talk, talk.interactions = is ∧ talk.queue = operatorLines s ∧ talk.last.isFinished = true ∧
      (u.finished s).captured = Dialogue.captured talk.last.received.toList ∧
      operatorLines (u.finished s).surroundings = talk.last.queue := by
  have going := goesOn_after (start u.interactions s) u.operations
  rw [finished]
  rw [given] at going ⊢
  generalize (start (some is) s).after u.operations = c at going
  obtain ⟨talk, rfl, queue, finished, dialogue⟩ := exists_talk_of_goesOn going
  have ending := going.trans (goesOn_close c)
  refine ⟨talk, rfl, queue, finished, ?_, ?_⟩
  · rw [← dialogue]
    rfl
  · exact operatorLines_left u.files ending.interactions ending.operator (ending.input _ rfl) dialogue queue
      finished

theorem operator_finished (u : Use) (s : Surroundings) (input : (u.finished s).surroundings.operator = .input) :
    s.operator = .input := by
  have going := (goesOn_after (start u.interactions s) u.operations).trans (goesOn_close _)
  have same : _ = s.operator := going.operator
  rw [finished, Console.finish] at input
  generalize ((start u.interactions s).after u.operations).close = c at same input
  rw [← same]
  simp only [Console.left] at input
  split at input
  · exact input
  · cases input
  · next operator => exact operator

theorem operatorLines_finished_of_none (u : Use) (s : Surroundings) (plain : u.interactions = none)
    (typed : s.operator ≠ .input) : operatorLines (u.finished s).surroundings = operatorLines s := by
  have going := (goesOn_after (start u.interactions s) u.operations).trans (goesOn_close _)
  have interactions : _ = none := going.interactions.trans plain
  have operator : _ = s.operator := going.operator
  rw [finished, Console.finish]
  generalize ((start u.interactions s).after u.operations).close = c at interactions operator
  cases lines : s.operator with
  | typed lines => simp [Console.left, interactions, operator, lines, operatorLines]
  | input => exact absurd lines typed

/-- What commands that run one after another leave. -/
def leaving (uses : List Use) (s : Surroundings) : Surroundings :=
  uses.foldl (fun s u => (u.finished s).surroundings) s

/-- The interactive ones among commands that run one after another have had dialogues, each with the lines
that the one before has left, as long as no other command reads what the operator types. -/
theorem exists_talks (uses : List Use) (s : Surroundings)
    (apart : s.operator = .input → ∀ u ∈ uses, u.interactions ≠ none) :
    ∃ talks, talks.map Talk.interactions = uses.filterMap Use.interactions ∧
      Consecutive (operatorLines s) talks (operatorLines (leaving uses s)) := by
  induction uses generalizing s with
  | nil => exact ⟨[], rfl, .nil _⟩
  | cons u uses ih =>
    obtain ⟨talks, interactions, others⟩ := ih (u.finished s).surroundings fun input u' member =>
      apart (u.operator_finished s input) u' (List.mem_cons_of_mem u member)
    cases given : u.interactions with
    | none =>
      have typed : s.operator ≠ .input := fun input => apart input u List.mem_cons_self given
      rw [u.operatorLines_finished_of_none s given typed] at others
      exact ⟨talks, by rw [List.filterMap_cons_none given, interactions], others⟩
    | some is =>
      obtain ⟨talk, rfl, queue, finished, -, rest⟩ := u.exists_talk s given
      rw [rest] at others
      refine ⟨talk :: talks, ?_, queue ▸ .cons finished others⟩
      rw [List.filterMap_cons_some given, List.map_cons, interactions]

/-- No line of the operator is read by two commands, and all keep their order: each has been received by
an interactive command, was lost at the end of one, or is left. -/
theorem operatorLines_eq (uses : List Use) (s : Surroundings)
    (apart : s.operator = .input → ∀ u ∈ uses, u.interactions ≠ none) :
    ∃ talks : List Talk, talks.map Talk.interactions = uses.filterMap Use.interactions ∧
      operatorLines s =
        talks.flatMap (fun talk => talk.relayed ++ talk.lost) ++ operatorLines (leaving uses s) := by
  obtain ⟨talks, interactions, run⟩ := exists_talks uses s apart
  exact ⟨talks, interactions, run.queue_eq⟩

end Use

end Shell.Console

end Scaffold
