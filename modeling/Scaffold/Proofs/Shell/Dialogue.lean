import Mathlib.Data.List.Infix
import Scaffold.Proofs.Shell.Interleaving
import Scaffold.Proofs.Text.Occurrence
import Scaffold.Shell.Dialogue

/-! What dialogues hand to commands. Whatever the order in which the parties go on, each event that comes
before the end of the output brings the lines that belong to it, and nothing else is handed over. -/
namespace Scaffold

theorem Text.contains_eq (s needle : String) :
    Text.contains s needle = decide (needle.toList <:+: s.toList) := by
  unfold Text.contains Text.occursIn
  rcases found : Text.cut? needle.toList s.toList with _ | ⟨before, after⟩
  · have absent := Text.cut?_eq_none.mp found
    refine (decide_eq_false ?_).symm
    rintro ⟨before, after, same⟩
    exact absent before after same.symm
  · refine (decide_eq_true ?_).symm
    exact ⟨before, after, (Text.cut?_eq_some.mp found).1.symm⟩

namespace Dialogue

theorem lineBytes_eq (line : String) : lineBytes line = line.toUTF8.data.toList ++ [10] := by
  have newline : "\n".toByteArray.data.toList = [10] := by decide +kernel
  simp [lineBytes, newline]

def Event.piece? : Event → Option (List UInt8)
  | .printed piece => some piece
  | _ => none

def Event.line? : Event → Option String
  | .typed line => some line
  | _ => none

def Relay.line? : Relay → Option String
  | .holding line => some line
  | _ => none

/-- The pieces of output among events. -/
def printed (events : List Event) : List (List UInt8) := events.flatMap fun e => e.piece?.toList

/-- The lines of the operator among events. -/
def typed (events : List Event) : List String := events.flatMap fun e => e.line?.toList

@[simp] theorem typed_nil : typed [] = [] := rfl

@[simp] theorem typed_cons (e : Event) (events : List Event) :
    typed (e :: events) = e.line?.toList ++ typed events := List.flatMap_cons

@[simp] theorem typed_append (events more : List Event) :
    typed (events ++ more) = typed events ++ typed more := List.flatMap_append

@[simp] theorem typed_map_printed (pieces : List (List UInt8)) : typed (pieces.map .printed) = [] := by
  simp [typed, List.flatMap_map, Event.line?]

@[simp] theorem typed_map_typed (lines : List String) : typed (lines.map .typed) = lines := by
  simp [typed, List.flatMap_map, Event.line?]

section Replies

variable (interactions : List Blueprint.Interaction)

/-- The answer to the first question that stands in a text. -/
def answer? (text : String) : Option String :=
  (interactions.find? fun i => decide (i.question.toList <:+: text.toList)).map (·.answer)

/-- What is handed over because of an event. -/
def replies : Event → List String
  | .printed piece => (answer? interactions (pieceText piece)).toList
  | .typed line => [line]
  | .closed => []

/-- The answers to the output and the lines of the operator are all that is handed over. -/
theorem interleaving_replies (events : List Event) :
    Interleaving ((printed events).flatMap fun piece => (answer? interactions (pieceText piece)).toList)
      (typed events) (events.flatMap (replies interactions)) := by
  induction events with
  | nil => exact .nil
  | cons e events ih =>
    cases e with
    | printed piece => exact (Interleaving.ofLeft _).append ih
    | typed line => exact .right line ih
    | closed => exact ih

theorem toList_line? (e : Event) : (Dialogue.line? interactions e).toList = replies interactions e := by
  cases e with
  | printed piece =>
    simp only [Dialogue.line?, replies, answer?, Blueprint.Interaction.find?, Text.contains_eq]
  | typed line => rfl
  | closed => rfl

end Replies

namespace State

/-- The events that have been told, in their order. -/
def told (s : State) : List Event := s.received.toList ++ s.channel

section Moves

variable {interactions : List Blueprint.Interaction}

theorem after_append (s : State) (moves more : List Move) :
    s.after interactions (moves ++ more) = (s.after interactions moves).after interactions more :=
  List.foldl_append

/-- What a move does: nothing, or what one of the parties can do. -/
inductive Moved (interactions : List Blueprint.Interaction) (s : State) : Move → State → Prop
  | idle (m : Move) : Moved interactions s m s
  | print {piece : List UInt8} (isOpen : s.isClosed = false) :
    Moved interactions s (.print piece) { s with channel := s.channel ++ [.printed piece] }
  | close (isOpen : s.isClosed = false) :
    Moved interactions s .close { s with isClosed := true, channel := s.channel ++ [.closed] }
  | wait (checking : s.relay = .checking) (ongoing : s.isOver = false) :
    Moved interactions s .check { s with relay := .waiting }
  | stop (checking : s.relay = .checking) (ended : s.isOver = true) :
    Moved interactions s .check { s with relay := .stopped }
  | take {line : String} {queue : List String} (waiting : s.relay = .waiting)
    (queued : s.queue = line :: queue) :
    Moved interactions s .take { s with relay := .holding line, queue := queue }
  | giveUp (waiting : s.relay = .waiting) : Moved interactions s .giveUp { s with relay := .checking }
  | leave (waiting : s.relay = .waiting) (empty : s.queue = []) :
    Moved interactions s .leave { s with relay := .stopped }
  | tell {line : String} (holding : s.relay = .holding line) :
    Moved interactions s .tell { s with relay := .checking, channel := s.channel ++ [.typed line] }
  | receive {e : Event} {channel : List Event} (ongoing : s.isOver = false)
    (arriving : s.channel = e :: channel) :
    Moved interactions s .receive
      { s with
        channel := channel, received := s.received.push e
        handed := s.handed ++ ((Dialogue.line? interactions e).map lineBytes).getD []
        isOver := e = .closed }

theorem moved (interactions : List Blueprint.Interaction) (s : State) (m : Move) :
    Moved interactions s m (s.move interactions m) := by
  cases m with
  | print piece =>
    simp only [move]
    split
    · exact .idle _
    · next isOpen => exact .print (Bool.eq_false_iff.mpr isOpen)
  | close =>
    simp only [move]
    split
    · exact .idle _
    · next isOpen => exact .close (Bool.eq_false_iff.mpr isOpen)
  | check =>
    simp only [move]
    split
    · next checking =>
      split
      · next ended => exact .stop checking ended
      · next ongoing => exact .wait checking (Bool.eq_false_iff.mpr ongoing)
    · exact .idle _
  | take =>
    simp only [move]
    split
    · next line queue waiting queued => exact .take waiting queued
    · exact .idle _
  | giveUp =>
    simp only [move]
    split
    · next waiting => exact .giveUp waiting
    · exact .idle _
  | leave =>
    simp only [move]
    split
    · next waiting empty => exact .leave waiting empty
    · exact .idle _
  | tell =>
    simp only [move]
    split
    · next line holding => exact .tell holding
    · exact .idle _
  | receive =>
    simp only [move]
    split
    · next e channel ongoing arriving => exact .receive ongoing arriving
    · exact .idle _

/-- What holds at any time of a dialogue that began with some lines of the operator. -/
structure Sound (interactions : List Blueprint.Interaction) (lines : List String) (s : State) : Prop where
  lines : typed s.told ++ s.relay.line?.toList ++ s.queue = lines
  handed : s.handed.toList = (s.received.toList.flatMap (replies interactions)).flatMap lineBytes
  going : s.isOver = false → .closed ∉ s.received.toList
  finish : s.isOver = true → ∃ before, s.received.toList = before ++ [.closed] ∧ .closed ∉ before
  closed : s.isClosed = true ↔ .closed ∈ s.told

theorem Sound.start (lines : List String) : Sound interactions lines (start lines) where
  lines := rfl
  handed := rfl
  going _ := List.not_mem_nil
  finish ended := nomatch ended
  closed := by simp [State.start, told]

theorem Sound.move {lines : List String} {s : State} (sound : Sound interactions lines s) (m : Move) :
    Sound interactions lines (s.move interactions m) := by
  have moved := moved interactions s m
  generalize s.move interactions m = t at moved
  obtain ⟨queued, handed, going, finish, closed⟩ := sound
  cases moved with
  | idle => exact ⟨queued, handed, going, finish, closed⟩
  | print isOpen =>
    exact ⟨by simpa [told, Event.line?] using queued, handed, going, finish, by simpa [told] using closed⟩
  | close isOpen =>
    exact ⟨by simpa [told, Event.line?] using queued, handed, going, finish, by simp [told]⟩
  | wait checking ongoing =>
    rw [checking] at queued
    exact ⟨queued, handed, going, finish, closed⟩
  | stop checking ended =>
    rw [checking] at queued
    exact ⟨queued, handed, going, finish, closed⟩
  | take waiting nonempty =>
    rw [waiting, nonempty] at queued
    exact ⟨by simpa [Relay.line?, told] using queued, handed, going, finish, closed⟩
  | giveUp waiting =>
    rw [waiting] at queued
    exact ⟨queued, handed, going, finish, closed⟩
  | leave waiting empty =>
    rw [waiting] at queued
    exact ⟨queued, handed, going, finish, closed⟩
  | tell holding =>
    rw [holding] at queued
    exact ⟨by simpa [told, Event.line?, Relay.line?] using queued, handed, going, finish,
      by simpa [told] using closed⟩
  | @receive e channel ongoing arriving =>
    have before := going ongoing
    refine ⟨by simpa [told, arriving] using queued, ?_, ?_, ?_, by simpa [told, arriving] using closed⟩
    · have bytes : ((Dialogue.line? interactions e).map lineBytes).getD [] =
          (replies interactions e).flatMap lineBytes := by
        rw [← toList_line?]
        cases Dialogue.line? interactions e <;> simp
      simp [handed, bytes]
    · intro later
      simp only [decide_eq_false_iff_not] at later
      simpa [before] using Ne.symm later
    · intro last
      simp only [decide_eq_true_eq] at last
      exact ⟨s.received.toList, by simp [last], before⟩

theorem Sound.after {lines : List String} {s : State} (sound : Sound interactions lines s)
    (moves : List Move) : Sound interactions lines (s.after interactions moves) := by
  induction moves generalizing s with
  | nil => exact sound
  | cons m moves ih => exact ih (sound.move m)

/-! Every order in which events can come is that of some dialogue. -/

/-- The moves by which an event comes to be told. -/
def telling : Event → List Move
  | .printed piece => [.print piece]
  | .typed _ => [.check, .take, .tell]
  | .closed => [.close]

theorem after_telling {left right events : List Event} (order : Interleaving left right events)
    {lines : List String} {s : State} (typed : right = lines.map .typed) (queued : s.queue = lines)
    (checking : s.relay = .checking) (ongoing : s.isOver = false)
    (output : (∃ pieces : List (List UInt8), left = pieces.map .printed ++ [.closed]) ∧
      s.isClosed = false ∨ left = [] ∧ s.isClosed = true) :
    s.after interactions (events.flatMap telling) =
      { s with queue := [], isClosed := true, channel := s.channel ++ events } := by
  -- As long as the output goes on, its end is the last of the events to the left.
  induction order generalizing lines s with
  | nil =>
    have empty : lines = [] := List.map_eq_nil_iff.mp typed.symm
    rcases output with ⟨⟨pieces, absurd⟩, -⟩ | ⟨-, closed⟩
    · simp at absurd
    · subst empty
      obtain ⟨queue, relay, isClosed, channel, received, handed, isOver⟩ := s
      simp_all [after]
  | @left left right events e rest ih =>
    rw [List.flatMap_cons, after_append]
    rcases output with ⟨⟨pieces, same⟩, isOpen⟩ | ⟨absurd, -⟩
    · cases pieces with
      | nil =>
        obtain ⟨rfl, rfl⟩ := List.cons.inj same
        have told : s.after interactions (telling .closed) =
            { s with isClosed := true, channel := s.channel ++ [.closed] } := by
          simp [after, telling, move, isOpen]
        rw [told]
        exact (ih typed (s := { s with isClosed := true, channel := s.channel ++ [.closed] }) queued checking ongoing
          (.inr ⟨rfl, rfl⟩)).trans (by simp)
      | cons piece pieces =>
        obtain ⟨rfl, rfl⟩ := List.cons.inj same
        have told : s.after interactions (telling (.printed piece)) =
            { s with channel := s.channel ++ [.printed piece] } := by
          simp [after, telling, move, isOpen]
        rw [told]
        exact (ih typed (s := { s with channel := s.channel ++ [.printed piece] }) queued checking ongoing
          (.inl ⟨⟨pieces, rfl⟩, isOpen⟩)).trans (by simp)
    · cases absurd
  | @right left right events e rest ih =>
    rw [List.flatMap_cons, after_append]
    cases lines with
    | nil => cases typed
    | cons line lines =>
      obtain ⟨rfl, others⟩ := List.cons.inj typed
      have told : s.after interactions (telling (.typed line)) =
          { s with queue := lines, channel := s.channel ++ [.typed line] } := by
        obtain ⟨queue, relay, isClosed, channel, received, handed, isOver⟩ := s
        simp_all [after, telling, move]
      rw [told]
      exact (ih others (s := { s with queue := lines, channel := s.channel ++ [.typed line] }) rfl
        checking ongoing output).trans (by simp)

theorem told_receive (s : State) : (s.move interactions .receive).told = s.told := by
  have moved := moved interactions s .receive
  generalize s.move interactions .receive = t at moved
  cases moved with
  | idle => rfl
  | receive ongoing arriving => simp [told, arriving]

theorem told_receipts (s : State) (n : Nat) :
    (s.after interactions (List.replicate n .receive)).told = s.told := by
  induction n generalizing s with
  | zero => rfl
  | succ n ih => exact (ih _).trans (told_receive s)

theorem isOver_receipts {s : State} (ended : s.isOver = true) (n : Nat) :
    s.after interactions (List.replicate n .receive) = s := by
  induction n with
  | zero => rfl
  | succ n ih =>
    have idle : s.move interactions .receive = s := by simp [move, ended]
    rw [List.replicate_succ, after, List.foldl_cons, idle]
    exact ih

/-- The loop comes to its end once it has received all that has been told. -/
theorem isOver_of_receipts {s : State} (coming : s.isOver = true ∨ .closed ∈ s.channel) {n : Nat}
    (enough : s.channel.length ≤ n) :
    (s.after interactions (List.replicate n .receive)).isOver = true := by
  cases done : s.isOver with
  | true => rwa [isOver_receipts done]
  | false =>
    have waiting : .closed ∈ s.channel := by simpa [done] using coming
    induction n generalizing s with
    | zero => simp [List.eq_nil_of_length_eq_zero (Nat.le_zero.mp enough)] at waiting
    | succ n ih =>
      rw [List.replicate_succ, after, List.foldl_cons]
      rcases arriving : s.channel with _ | ⟨e, channel⟩
      · simp [arriving] at waiting
      · have received : (s.move interactions .receive).isOver = decide (e = .closed) ∧
            (s.move interactions .receive).channel = channel := by
          simp [move, done, arriving]
        cases last : decide (e = .closed) with
        | true =>
          have ended := received.1.trans last
          rwa [← after, isOver_receipts ended]
        | false =>
          have later : .closed ∈ (s.move interactions .receive).channel := by
            rw [received.2]
            rw [arriving, List.mem_cons] at waiting
            exact waiting.resolve_left fun same => of_decide_eq_false last same.symm
          refine ih (.inr later) ?_ (received.1.trans last) later
          simp only [received.2, arriving, List.length_cons] at enough ⊢
          omega

theorem exists_told {pieces : List (List UInt8)} {lines : List String} {events : List Event}
    (order : Interleaving (pieces.map .printed ++ [.closed]) (lines.map .typed) events) :
    ∃ moves, ((start lines).after interactions moves).isOver = true ∧
      ((start lines).after interactions moves).told = events := by
  have sent : (start lines).after interactions (events.flatMap telling) =
      { start lines with queue := [], isClosed := true, channel := [] ++ events } :=
    after_telling order rfl rfl rfl rfl (.inl ⟨⟨pieces, rfl⟩, rfl⟩)
  have coming : .closed ∈ ((start lines).after interactions (events.flatMap telling)).channel := by
    rw [sent]
    simpa [start] using (order.mem_iff .closed).mpr (.inl (by simp))
  -- First all is told in the given order, then all is received.
  refine ⟨events.flatMap telling ++ List.replicate events.length .receive, ?_, ?_⟩
  · rw [after_append]
    refine isOver_of_receipts (.inr coming) ?_
    rw [sent]
    simp
  · rw [after_append, told_receipts, sent]
    simp [told, start]

end Moves

end State

/-- Before the end of the output come all its pieces, and some lines of the operator from the first on. -/
theorem cut_at_closed {pieces : List (List UInt8)} {lines : List String} {events : List Event}
    (order : Interleaving (pieces.map .printed ++ [.closed]) (lines.map .typed) events) :
    ∃ before after, events = before ++ .closed :: after ∧ .closed ∉ before ∧ typed before <+: lines ∧
      Interleaving (pieces.map .printed) ((typed before).map .typed) before := by
  obtain ⟨told, later, before, after, parts, whole, first, -⟩ := order.cut
  obtain ⟨early, late, rfl, rfl, -⟩ := List.map_eq_append_iff.mp parts
  have same : typed before = early := by
    have lines := first.flatMap fun e : Event => e.line?.toList
    have printed : (pieces.map Event.printed).flatMap (fun e => e.line?.toList) = [] :=
      typed_map_printed pieces
    rw [printed] at lines
    exact lines.eq_of_left_nil.trans (typed_map_typed early)
  refine ⟨before, after, whole, ?_, ?_, ?_⟩
  · rw [first.mem_iff]
    simp
  · rw [same]
    exact List.prefix_append early late
  · rw [same]
    exact first

/-- What is handed to a command when the pieces of its output and the lines of the operator come in some
order: the lines for the events before the end of the output, and nothing after it. -/
theorem handed_of_interleaving (interactions : List Blueprint.Interaction) {pieces : List (List UInt8)}
    {lines : List String} {events : List Event}
    (order : Interleaving (pieces.map .printed ++ [.closed]) (lines.map .typed) events) :
    (∃ moves, ((State.start lines).after interactions moves).isOver = true ∧
      ((State.start lines).after interactions moves).told = events) ∧
    ∀ queue moves, ((State.start queue).after interactions moves).isOver = true →
      ((State.start queue).after interactions moves).told = events →
      ∃ before after, events = before ++ .closed :: after ∧ .closed ∉ before ∧
        ((State.start queue).after interactions moves).handed.toList =
          (before.flatMap (replies interactions)).flatMap (fun line => line.toUTF8.data.toList ++ [10]) ∧
        typed before <+: lines ∧
        Interleaving (pieces.flatMap fun piece => (answer? interactions (pieceText piece)).toList)
          (typed before) (before.flatMap (replies interactions)) := by
  refine ⟨State.exists_told order, fun queue moves ended told => ?_⟩
  have sound : State.Sound interactions queue ((State.start queue).after interactions moves) :=
    (State.Sound.start queue).after moves
  generalize (State.start queue).after interactions moves = s at ended told sound
  obtain ⟨before, after, whole, going, lines_before, inside⟩ := cut_at_closed order
  -- What has been received and the given events end their first part at the same place.
  have received : s.received.toList = before ++ [.closed] := by
    obtain ⟨front, same, absent⟩ := sound.finish ended
    have both : front ++ .closed :: s.channel = before ++ .closed :: after := by
      rw [← whole, ← told, State.told, same]
      simp
    rw [same, Text.front_unique both absent going]
  refine ⟨before, after, whole, going, ?_, lines_before, ?_⟩
  · rw [sound.handed, received]
    simp [replies, funext lineBytes_eq]
  · simpa [List.flatMap_map, replies] using inside.flatMap (replies interactions)

theorem handed_between_lines :
    let piece := "Name? ".toUTF8.data.toList
    let events := [.typed "x", .printed piece, .closed, .typed "y"]
    Interleaving ([piece].map .printed ++ [.closed]) (["x", "y"].map .typed) events ∧
      ∃ moves, ((State.start ["x", "y"]).after [⟨"Name?", "demo"⟩] moves).told = events ∧
        ((State.start ["x", "y"]).after [⟨"Name?", "demo"⟩] moves).handed.toList =
          "x\ndemo\n".toUTF8.data.toList := by
  intro piece events
  have order : Interleaving ([piece].map .printed ++ [.closed]) (["x", "y"].map .typed) events :=
    .right _ (.left _ (.left _ (.right _ .nil)))
  obtain ⟨⟨moves, ended, told⟩, handed⟩ := handed_of_interleaving [⟨"Name?", "demo"⟩] order
  obtain ⟨before, after, whole, going, bytes, -, -⟩ := handed ["x", "y"] moves ended told
  have same : before ++ .closed :: after = [.typed "x", .printed piece] ++ .closed :: [.typed "y"] := whole.symm
  have front := Text.front_unique same going (by decide +kernel)
  refine ⟨order, moves, told, ?_⟩
  rw [bytes, front]
  decide +kernel

end Dialogue

end Scaffold
