import Scaffold.Proofs.Shell.Dialogue
import Scaffold.Proofs.Text.Utf8

/-! What is captured of the output of a command. The pieces are read one by one, so that a character whose
bytes come in two pieces is lost, and nothing else is. -/
namespace Scaffold

theorem Interleaving.eq_of_right_nil {α : Type} {xs zs : List α} (order : Interleaving xs [] zs) : zs = xs := by
  generalize empty : ([] : List α) = ys at order
  induction order with
  | nil => rfl
  | left x _ ih => rw [ih empty]
  | right => cases empty

namespace Dialogue

@[simp] theorem printed_append (events more : List Event) :
    printed (events ++ more) = printed events ++ printed more := List.flatMap_append

theorem captured_eq (events : List Event) : captured events = String.join ((printed events).map pieceText) := by
  rw [captured]
  refine congrArg String.join ?_
  induction events with
  | nil => rfl
  | cons e events ih => cases e <;> simp_all [printed, Event.piece?]

theorem toList_join_pieceText (pieces : List (List UInt8)) :
    (String.join (pieces.map pieceText)).toList = pieces.flatMap Text.decodeLossy := by
  simp [pieceText, String.toList_join, List.flatMap_map]

/-- Some pieces read one by one are the text of all their bytes just when each of them is a text. -/
theorem join_pieceText_eq_iff {text : String} {pieces : List (List UInt8)}
    (whole : pieces.flatten = text.toUTF8.data.toList) :
    String.join (pieces.map pieceText) = text ↔
      ∀ piece ∈ pieces, ∃ part : String, piece = part.toUTF8.data.toList := by
  rw [Text.toUTF8_toList] at whole
  rw [← String.toList_inj, toList_join_pieceText, Text.flatMap_decodeLossy_eq_iff whole]
  refine forall₂_congr fun piece _ => ⟨?_, ?_⟩
  · rintro ⟨part, rfl⟩
    exact ⟨String.ofList part, by rw [Text.toUTF8_toList, String.toList_ofList]⟩
  · rintro ⟨part, rfl⟩
    exact ⟨part.toList, Text.toUTF8_toList part⟩

theorem printed_before_closed {pieces : List (List UInt8)} {before : List Event}
    (inside : Interleaving (pieces.map .printed) ((typed before).map .typed) before) :
    printed before = pieces := by
  have only := inside.flatMap fun e : Event => e.piece?.toList
  have none : ((typed before).map Event.typed).flatMap (fun e => e.piece?.toList) = [] := by
    simp [List.flatMap_map, Event.piece?]
  have all : (pieces.map Event.printed).flatMap (fun e => e.piece?.toList) = pieces := by
    simp [List.flatMap_map, Event.piece?]
  rw [none] at only
  exact only.eq_of_right_nil.trans all

variable (interactions : List Blueprint.Interaction)

/-- The pieces of output that have been received when the dialogue is over are those that were printed before
the output was closed. -/
theorem printed_received {pieces : List (List UInt8)} {lines : List String} {events : List Event}
    (order : Interleaving (pieces.map .printed ++ [.closed]) (lines.map .typed) events)
    {queue : List String} {moves : List Move}
    (ended : ((State.start queue).after interactions moves).isOver = true)
    (told : ((State.start queue).after interactions moves).told = events) :
    printed ((State.start queue).after interactions moves).received.toList = pieces := by
  have sound : State.Sound interactions queue ((State.start queue).after interactions moves) :=
    (State.Sound.start queue).after moves
  generalize (State.start queue).after interactions moves = s at ended told sound
  obtain ⟨before, after, whole, going, -, inside⟩ := cut_at_closed order
  obtain ⟨front, received, absent⟩ := sound.finish ended
  have both : front ++ .closed :: s.channel = before ++ .closed :: after := by
    rw [← whole, ← told, State.told, received]
    simp
  rw [received, Text.front_unique both absent going, printed_append, printed_before_closed inside]
  exact List.append_nil pieces

/-- Whatever the order in which the pieces of a text and the lines of the operator come, what is captured is
the pieces read one by one. It is the text just when no piece ends within a character. -/
theorem captured_of_interleaving {text : String} {pieces : List (List UInt8)} {lines : List String}
    {events : List Event} (order : Interleaving (pieces.map .printed ++ [.closed]) (lines.map .typed) events)
    (whole : pieces.flatten = text.toUTF8.data.toList) :
    (∃ moves, ((State.start lines).after interactions moves).isOver = true ∧
      ((State.start lines).after interactions moves).told = events) ∧
    ∀ queue moves, ((State.start queue).after interactions moves).isOver = true →
      ((State.start queue).after interactions moves).told = events →
      captured ((State.start queue).after interactions moves).received.toList =
        String.join (pieces.map pieceText) ∧
      (captured ((State.start queue).after interactions moves).received.toList = text ↔
        ∀ piece ∈ pieces, ∃ part : String, piece = part.toUTF8.data.toList) := by
  refine ⟨State.exists_told order, fun queue moves ended told => ?_⟩
  rw [captured_eq, printed_received interactions order ended told]
  exact ⟨rfl, join_pieceText_eq_iff whole⟩

theorem captured_of_whole_characters :
    let pieces := ["Name? ".toUTF8.data.toList, "é\n".toUTF8.data.toList]
    let events := [.printed "Name? ".toUTF8.data.toList, .typed "x", .printed "é\n".toUTF8.data.toList, .closed]
    Interleaving (pieces.map .printed ++ [.closed]) (["x"].map .typed) events ∧
      ∃ moves, ((State.start ["x"]).after [⟨"Name?", "demo"⟩] moves).told = events ∧
        captured ((State.start ["x"]).after [⟨"Name?", "demo"⟩] moves).received.toList = "Name? é\n" := by
  intro pieces events
  have order : Interleaving (pieces.map .printed ++ [.closed]) (["x"].map .typed) events :=
    .left _ (.right _ (.left _ (.left _ .nil)))
  have whole : pieces.flatten = "Name? é\n".toUTF8.data.toList := by decide +kernel
  obtain ⟨⟨moves, ended, told⟩, given⟩ := captured_of_interleaving [⟨"Name?", "demo"⟩] order whole
  refine ⟨order, moves, told, (given ["x"] moves ended told).2.mpr ?_⟩
  simp only [pieces, List.forall_mem_cons]
  exact ⟨⟨_, rfl⟩, ⟨_, rfl⟩, nofun⟩

/-- The two bytes of a character come in two pieces. -/
theorem captured_of_split_character :
    let pieces := [[0x4E, 0x61, 0x6D, 0x65, 0x3F, 0x20, 0xC3], [0xA9, 0x0A]]
    let last := (State.start []).after [⟨"Name?", "x"⟩]
      (pieces.flatMap (fun piece => [.print piece, .receive]) ++ [.close, .receive])
    pieces.flatten = "Name? é\n".toUTF8.data.toList ∧
      (∀ piece ∈ pieces, piece ≠ [] ∧ piece.length ≤ pieceSize) ∧
      last.isOver = true ∧ last.told = pieces.map .printed ++ [.closed] ∧
      captured last.received.toList = "Name? \uFFFD\uFFFD\n" ∧
      captured last.received.toList ≠ "Name? é\n" := by
  intro pieces last
  have received : captured last.received.toList = "Name? \uFFFD\uFFFD\n" := by
    decide +kernel
  refine ⟨by decide +kernel, by decide +kernel, by decide +kernel, by decide +kernel, received, ?_⟩
  rw [received]
  decide +kernel

end Dialogue

end Scaffold
