import Mathlib.Logic.Relation
import Scaffold.Proofs.Pattern.Framing

/-! The ways through a program. A thread goes on from label to label at one place until it waits for a
character or is accepted; all the threads together wait wherever some way leads. -/
namespace Scaffold.Pattern

/-! One place. -/

/-- The place at an index of a text. -/
def placeAt (s : List Char) (index : Nat) : Place :=
  ⟨index, if index = 0 then none else s[index - 1]?, s[index]?⟩

namespace Instruction

/-- Where a thread goes on without taking a character. -/
def leads (place : Place) : Instruction → List Nat
  | .split first second => [first, second]
  | .look l next => if l.holds place.before place.after then [next] else []
  | .save _ next => [next]
  | _ => []

/-- The slots of a thread that has gone on. -/
def kept (place : Place) (slots : Slots) : Instruction → Slots
  | .save slot _ => slots.setIfInBounds slot (some place.index)
  | _ => slots

def waits : Instruction → Bool
  | .accept | .char _ _ => true
  | _ => false

theorem leads_subset_targets (place : Place) (i : Instruction) : i.leads place ⊆ i.targets := by
  cases i with
  | look l next =>
    rw [leads]
    split
    · exact List.Subset.refl _
    · exact List.nil_subset _
  | accept | char | split | save => simp [leads, targets]

end Instruction

namespace Program

variable (p : Program) (place : Place)

/-- A thread goes on from one label to another at a place. -/
def Passes (l n : Nat) : Prop := ∃ i, p.code[l]? = some i ∧ n ∈ i.leads place

/-- A thread takes a character or is accepted at a label. -/
def waitsAt (l : Nat) : Bool := p.code[l]?.any Instruction.waits

/-- The threads that go on from a thread. -/
def onward (t : Thread) : List Thread :=
  match p.code[t.label]? with
  | some i => (i.leads place).map (⟨·, i.kept place t.slots⟩)
  | none => []

theorem passes_of_mem_onward {p : Program} {place : Place} {t u : Thread} (member : u ∈ p.onward place t) :
    ∃ i, p.code[t.label]? = some i ∧ u.label ∈ i.leads place ∧ u.slots = i.kept place t.slots := by
  rw [onward] at member
  split at member
  · next i here =>
    obtain ⟨n, leads, rfl⟩ := List.mem_map.mp member
    exact ⟨i, here, leads, rfl⟩
  · cases member

theorem exists_mem_onward {p : Program} {place : Place} {t : Thread} {n : Nat}
    (passes : p.Passes place t.label n) : ∃ u ∈ p.onward place t, u.label = n := by
  obtain ⟨i, here, leads⟩ := passes
  rw [onward, here]
  exact ⟨_, List.mem_map_of_mem leads, rfl⟩

end Program

/-- A label that the threads at a place have reached. -/
def Threads.Seen (ts : Threads) (place : Place) (l : Nat) : Prop :=
  ts.reached[l]? = some (place.index + 1)

/-- The labels that the threads at a place have not reached. -/
def Threads.unseen (ts : Threads) (place : Place) : Nat :=
  ts.reached.countP (· ≠ place.index + 1)

/-- A thread comes to a label for the first time. -/
def Threads.enter (p : Program) (place : Place) (t : Thread) (ts : Threads) : Threads :=
  ⟨ts.reached.setIfInBounds t.label (place.index + 1),
    if p.waitsAt t.label then t :: ts.waiting else ts.waiting⟩

variable {p : Program} {place : Place} {ts : Threads} {t : Thread} {stack : List Thread} {fuel : Nat}

theorem settle_of_seen (seen : ts.Seen place t.label) :
    settle p place ts (fuel + 1) (t :: stack) = settle p place ts fuel stack := by
  rw [settle]
  exact if_pos seen

theorem settle_of_fresh (fresh : ¬ ts.Seen place t.label) :
    settle p place ts (fuel + 1) (t :: stack) =
      settle p place (ts.enter p place t) fuel (p.onward place t ++ stack) := by
  rw [settle]
  refine (if_neg fresh).trans ?_
  rw [Program.onward, Threads.enter, Program.waitsAt]
  cases p.code[t.label]? with
  | none => rfl
  | some i =>
    cases i with
    | look l next =>
      simp only [Instruction.leads]
      split <;> rfl
    | accept | char | split | save => rfl

/-- What holds while threads are followed: what a label leads to has been reached or is on the stack, and
where a thread has to wait, one waits. -/
structure Settling (p : Program) (place : Place) (stack : List Thread) (ts : Threads) : Prop where
  size : ts.reached.size = p.code.size
  marks : ∀ m ∈ ts.reached, m ≤ place.index + 1
  goesOn : ∀ l n, ts.Seen place l → p.Passes place l n → n < p.code.size →
    ts.Seen place n ∨ ∃ t ∈ stack, t.label = n
  holds : ∀ l, ts.Seen place l → p.waitsAt l = true → ∃ t ∈ ts.waiting, t.label = l

/-- All threads at a place have been followed. -/
abbrev Settled (p : Program) (place : Place) (ts : Threads) : Prop := Settling p place [] ts

theorem Threads.seen_enter {l : Nat} :
    (ts.enter p place t).Seen place l ↔ ts.Seen place l ∨ l = t.label ∧ l < ts.reached.size := by
  unfold Threads.Seen Threads.enter
  rw [Array.getElem?_setIfInBounds]
  by_cases same : t.label = l
  · subst same
    by_cases inside : t.label < ts.reached.size
    · simp [inside]
    · simp [inside]
  · simp [same, Ne.symm same]

theorem Threads.waiting_enter :
    (ts.enter p place t).waiting = if p.waitsAt t.label then t :: ts.waiting else ts.waiting := rfl

theorem Threads.unseen_enter (fresh : ¬ ts.Seen place t.label) (inside : t.label < ts.reached.size) :
    (ts.enter p place t).unseen place + 1 = ts.unseen place := by
  have other : ts.reached[t.label] ≠ place.index + 1 := by
    intro same
    exact fresh (by rw [Threads.Seen, Array.getElem?_eq_getElem inside, same])
  have counted : 0 < ts.reached.countP (· ≠ place.index + 1) :=
    Array.countP_pos_iff.mpr ⟨_, Array.getElem_mem inside, by simpa using other⟩
  unfold Threads.unseen Threads.enter
  rw [Array.setIfInBounds_def, dif_pos inside, Array.countP_set]
  simp only [other, ne_eq, not_false_eq_true, decide_true, not_true_eq_false, decide_false, if_true,
    Bool.false_eq_true, if_false, Nat.add_zero]
  exact Nat.sub_add_cancel counted

theorem Settling.tail_of_seen (settling : Settling p place (t :: stack) ts)
    (seen : ts.Seen place t.label) : Settling p place stack ts := by
  refine { settling with goesOn := fun l n before passes inside => ?_ }
  obtain after | ⟨u, member, rfl⟩ := settling.goesOn l n before passes inside
  · exact .inl after
  · obtain rfl | member := List.mem_cons.mp member
    · exact .inl seen
    · exact .inr ⟨u, member, rfl⟩

theorem Settling.enter (settling : Settling p place (t :: stack) ts) :
    Settling p place (p.onward place t ++ stack) (ts.enter p place t) where
  size := by
    rw [← settling.size]
    exact Array.size_setIfInBounds
  marks m member := by
    obtain member | rfl := Array.mem_or_eq_of_mem_setIfInBounds member
    · exact settling.marks m member
    · exact Nat.le_refl _
  goesOn l n seen passes inside := by
    rcases Threads.seen_enter.mp seen with seen | ⟨rfl, -⟩
    · obtain after | ⟨u, member, rfl⟩ := settling.goesOn l n seen passes inside
      · exact .inl (Threads.seen_enter.mpr (.inl after))
      · obtain rfl | member := List.mem_cons.mp member
        · exact .inl (Threads.seen_enter.mpr (.inr ⟨rfl, settling.size ▸ inside⟩))
        · exact .inr ⟨u, List.mem_append_right _ member, rfl⟩
    · obtain ⟨u, member, same⟩ := Program.exists_mem_onward passes
      exact .inr ⟨u, List.mem_append_left _ member, same⟩
  holds l seen waits := by
    rw [Threads.waiting_enter]
    rcases Threads.seen_enter.mp seen with seen | ⟨rfl, -⟩
    · obtain ⟨u, member, same⟩ := settling.holds l seen waits
      refine ⟨u, ?_, same⟩
      split
      · exact .tail _ member
      · exact member
    · exact ⟨t, by rw [if_pos waits]; exact .head _, rfl⟩

theorem length_onward_le (p : Program) (place : Place) (t : Thread) : (p.onward place t).length ≤ 2 := by
  rw [Program.onward]
  split
  · next i _ =>
    rw [List.length_map]
    cases i with
    | look l next => rw [Instruction.leads]; split <;> simp
    | accept | char | split | save => simp [Instruction.leads]
  · exact Nat.zero_le _

/-- Each label that has not been reached pays for two threads on the stack. -/
theorem Settling.unseen_le (settling : Settling p place (t :: stack) ts) (fresh : ¬ ts.Seen place t.label) :
    2 * (ts.enter p place t).unseen place + (p.onward place t).length ≤ 2 * ts.unseen place := by
  by_cases inside : t.label < ts.reached.size
  · have counted := Threads.unseen_enter (p := p) fresh inside
    have few := length_onward_le p place t
    omega
  · have outside : ts.reached.size ≤ t.label := Nat.le_of_not_lt inside
    have stays : (ts.enter p place t).reached = ts.reached := Array.setIfInBounds_eq_of_size_le outside
    have ends : p.onward place t = [] := by
      rw [Program.onward, Array.getElem?_eq_none (settling.size ▸ outside)]
    rw [ends, Threads.unseen, stays]
    exact Nat.le_refl _

/-- What following the threads of a stack comes to. -/
structure Settles (p : Program) (place : Place) (Q : Thread → Prop) (stack : List Thread)
    (ts ts' : Threads) : Prop where
  settled : Settled p place ts'
  added : ∃ new, ts'.waiting = new ++ ts.waiting ∧ ∀ t ∈ new, Q t ∧ p.waitsAt t.label = true
  kept : ∀ l, ts.Seen place l → ts'.Seen place l
  reached : ∀ t ∈ stack, t.label < p.code.size → ts'.Seen place t.label

theorem Settles.nil {Q : Thread → Prop} (settled : Settled p place ts) : Settles p place Q [] ts ts :=
  ⟨settled, ⟨[], rfl, nofun⟩, fun _ seen => seen, nofun⟩

theorem settles_settle {Q : Thread → Prop} (carried : ∀ t, Q t → ∀ u ∈ p.onward place t, Q u)
    (settling : Settling p place stack ts) (enough : 2 * ts.unseen place + stack.length ≤ fuel)
    (each : ∀ t ∈ stack, Q t) : Settles p place Q stack ts (settle p place ts fuel stack) := by
  induction fuel generalizing ts stack with
  | zero =>
    obtain rfl : stack = [] := List.length_eq_zero_iff.mp (by omega)
    exact .nil settling
  | succ fuel ih =>
    match stack with
    | [] =>
      rw [settle]
      · exact .nil settling
      · nofun
    | t :: stack =>
      obtain ⟨first, rest⟩ := List.forall_mem_cons.mp each
      rw [List.length_cons] at enough
      by_cases seen : ts.Seen place t.label
      · rw [settle_of_seen seen]
        obtain ⟨settled, added, kept, reached⟩ := ih (settling.tail_of_seen seen) (by omega) rest
        exact ⟨settled, added, kept, List.forall_mem_cons.mpr ⟨fun _ => kept _ seen, reached⟩⟩
      · rw [settle_of_fresh seen]
        -- The fuel is spent on the thread, or on a label that is now reached.
        have fewer : 2 * (ts.enter p place t).unseen place + (p.onward place t ++ stack).length ≤ fuel := by
          have paid := settling.unseen_le seen
          rw [List.length_append]
          omega
        obtain ⟨settled, ⟨new, same, each⟩, kept, reached⟩ := ih settling.enter fewer
          (List.forall_mem_append.mpr ⟨carried t first, rest⟩)
        refine ⟨settled, ?_, ?_, ?_⟩
        · rw [Threads.waiting_enter] at same
          split at same
          · next waits =>
            exact ⟨new ++ [t], by rw [same, List.append_assoc]; rfl,
              List.forall_mem_append.mpr ⟨each, List.forall_mem_singleton.mpr ⟨first, waits⟩⟩⟩
          · exact ⟨new, same, each⟩
        · exact fun l before => kept l (Threads.seen_enter.mpr (.inl before))
        · refine List.forall_mem_cons.mpr ⟨fun inside => kept _ ?_, fun u member => ?_⟩
          · exact Threads.seen_enter.mpr (.inr ⟨rfl, settling.size ▸ inside⟩)
          · exact reached u (List.mem_append_right _ member)

/-- Where all threads have been followed, all labels that a way leads to have been reached. -/
theorem Settling.seen_of_passes {l n : Nat} (settled : Settled p place ts) (seen : ts.Seen place l)
    (ways : Relation.ReflTransGen (p.Passes place) l n) (inside : n < p.code.size) :
    ts.Seen place n := by
  induction ways with
  | refl => exact seen
  | tail _ passes ih =>
    obtain ⟨i, here, leads⟩ := passes
    have before := ih (Array.getElem?_eq_some_iff.mp here).1
    obtain after | ⟨t, member, -⟩ := settled.goesOn _ _ before ⟨i, here, leads⟩ inside
    · exact after
    · cases member

/-! Whole ways. -/

namespace Program

/-- There is a way from the start of a program at the place `k` to a label at another place. -/
inductive Way (p : Program) (s : List Char) (k : Nat) : Nat → Nat → Prop where
  | start (within : k ≤ s.length) : Way p s k p.start k
  | pass {l i n : Nat} (way : Way p s k l i) (passes : p.Passes (placeAt s i) l n) : Way p s k n i
  | take {l i n : Nat} {set : Text.Ranges} {c : Char} (way : Way p s k l i)
      (here : p.code[l]? = some (.char set n)) (next : s[i]? = some c)
      (fits : set.contains c.toNat = true) : Way p s k n (i + 1)

/-- The program recognizes the text from one place to another. -/
def MatchesAt (p : Program) (s : List Char) (k j : Nat) : Prop :=
  ∃ l, p.code[l]? = some .accept ∧ p.Way s k l j

/-- A way comes to a label at a place, and has not gone on there. -/
inductive Arrives (p : Program) (s : List Char) (k : Nat) : Nat → Nat → Prop where
  | start : Arrives p s k p.start k
  | take {l i n : Nat} {set : Text.Ranges} {c : Char} (way : Way p s k l i)
      (here : p.code[l]? = some (.char set n)) (next : s[i]? = some c)
      (fits : set.contains c.toNat = true) : Arrives p s k n (i + 1)

variable {p : Program} {s : List Char} {k l i : Nat}

theorem Way.bounds (way : p.Way s k l i) : k ≤ i ∧ i ≤ s.length := by
  induction way with
  | start within => exact ⟨Nat.le_refl k, within⟩
  | pass _ _ ih => exact ih
  | take _ _ next _ ih => exact ⟨Nat.le_succ_of_le ih.1, (List.getElem?_eq_some_iff.mp next).1⟩

theorem Way.origin (way : p.Way s k l i) :
    ∃ m, p.Arrives s k m i ∧ Relation.ReflTransGen (p.Passes (placeAt s i)) m l := by
  induction way with
  | start => exact ⟨_, .start, .refl⟩
  | pass _ passes ih =>
    obtain ⟨m, arrives, ways⟩ := ih
    exact ⟨m, arrives, ways.tail passes⟩
  | take way here next fits => exact ⟨_, .take way here next fits, .refl⟩

theorem waitsAt_of_accept (here : p.code[l]? = some .accept) : p.waitsAt l = true := by
  rw [waitsAt, here]
  rfl

theorem waitsAt_of_char {set : Text.Ranges} {n : Nat} (here : p.code[l]? = some (.char set n)) :
    p.waitsAt l = true := by
  rw [waitsAt, here]
  rfl

theorem lt_of_waitsAt (waits : p.waitsAt l = true) : l < p.code.size := by
  rw [waitsAt, Option.any_eq_true_iff_get] at waits
  obtain ⟨some, -⟩ := waits
  exact (Array.getElem?_eq_some_iff.mp (Option.some_get some).symm).1

theorem lt_of_ways {place : Place} {n : Nat} (ways : Relation.ReflTransGen (p.Passes place) l n)
    (inside : n < p.code.size) : l < p.code.size := by
  rcases ways.cases_head with rfl | ⟨_, ⟨_, here, _⟩, _⟩
  · exact inside
  · exact (Array.getElem?_eq_some_iff.mp here).1

/-- A way to a later place waits at each place before. -/
theorem Way.through {j : Nat} (way : p.Way s k l j) (after : k ≤ i) (before : i < j) :
    ∃ m, p.waitsAt m = true ∧ p.Way s k m i := by
  induction way with
  | start => exact absurd before (Nat.not_lt_of_le after)
  | pass _ _ ih => exact ih before
  | take way here _ _ ih =>
    rcases Nat.lt_or_eq_of_le (Nat.le_of_lt_succ before) with before | rfl
    · exact ih before
    · exact ⟨_, waitsAt_of_char here, way⟩

end Program

/-! Threads and the ways that they have come. -/

/-- The place where a thread began, as its slots have kept it. -/
def Slots.began (slots : Slots) : Nat := slots[0]?.join.getD 0

/-- A thread at a place has come some way from its beginning. The first slot is set in the first step, and
the second one where the thread can be accepted. -/
structure Stems (p : Program) (s : List Char) (k i : Nat) (t : Thread) : Prop where
  way : p.Way s k t.label i
  room : 2 ≤ t.slots.size
  fresh : t.label = p.start → k = i
  begun : t.label ≠ p.start → t.slots[0]? = some (some k)
  ended : t.label = 0 → t.slots[1]? = some (some i)

namespace Stems

variable {s : List Char} {k i : Nat}

theorem began_eq (stems : Stems p s k i t) (entered : t.label ≠ p.start) : t.slots.began = k := by
  rw [Slots.began, stems.begun entered]
  rfl

theorem onward {u : Thread} (framed : Framed p) (stems : Stems p s k i t)
    (member : u ∈ p.onward (placeAt s i) t) : Stems p s k i u := by
  obtain ⟨code, here, leads, slots⟩ := Program.passes_of_mem_onward member
  have target := Instruction.leads_subset_targets _ _ leads
  have entered : u.label ≠ p.start := fun same => framed.unentered _ _ here (same ▸ target)
  refine ⟨.pass stems.way ⟨code, here, leads⟩, ?_, fun same => absurd same entered, fun _ => ?_, fun zero => ?_⟩
  · rw [slots]
    cases code <;> simpa [Instruction.kept] using stems.room
  · rw [slots]
    by_cases start : t.label = p.start
    · obtain ⟨body, first⟩ := framed.start
      rw [← start] at first
      cases here.symm.trans first
      obtain rfl := stems.fresh start
      exact Array.getElem?_setIfInBounds_self_of_lt (Nat.lt_of_lt_of_le Nat.zero_lt_two stems.room)
    · have begun := stems.begun start
      cases code with
      | save slot next =>
        have other : slot ≠ 0 := by
          rintro rfl
          exact start (framed.slotZero _ _ here)
        rw [Instruction.kept, Array.getElem?_setIfInBounds_ne other]
        exact begun
      | accept | char | split | look => exact begun
  · rw [zero] at target
    obtain rfl := framed.stop _ _ here target
    rw [slots]
    exact Array.getElem?_setIfInBounds_self_of_lt (Nat.lt_of_lt_of_le Nat.one_lt_two stems.room)

theorem start {slots : Slots} (framed : Framed p) (within : k ≤ s.length) (room : 2 ≤ slots.size) :
    Stems p s k k ⟨p.start, slots⟩ where
  way := .start within
  room := room
  fresh _ := rfl
  begun other := absurd rfl other
  ended zero := by
    obtain ⟨body, first⟩ := framed.start
    cases first.symm.trans ((framed.last p.start).mpr zero)

theorem take {set : Text.Ranges} {n : Nat} {c : Char} (framed : Framed p) (stems : Stems p s k i t)
    (here : p.code[t.label]? = some (.char set n)) (next : s[i]? = some c)
    (fits : set.contains c.toNat = true) : Stems p s k (i + 1) ⟨n, t.slots⟩ where
  way := .take stems.way here next fits
  room := stems.room
  fresh same := absurd (same ▸ List.mem_singleton_self n) (framed.unentered _ _ here)
  begun _ := stems.begun fun start => by
    obtain ⟨body, first⟩ := framed.start
    rw [start, first] at here
    cases here
  ended zero := by
    cases framed.stop _ _ here (zero ▸ List.mem_singleton_self n)

end Stems

end Scaffold.Pattern
