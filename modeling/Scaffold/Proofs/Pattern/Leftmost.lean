import Mathlib.Data.List.TakeWhile
import Scaffold.Proofs.Pattern.Paths

/-! A search finds a match that begins first. Threads stand in the order in which they have begun, so that
the thread that reaches a label first has begun no later than any other that comes there. -/
namespace Scaffold.Pattern

open Relation (ReflTransGen)

variable {p : Program} {s : List Char} {first i k : Nat} {ts ts' : Threads} {t : Thread}

def Thread.began (t : Thread) : Nat := t.slots.began

/-! The threads at one place. -/

/-- A thread waits at a place, and has begun at `first` or later. -/
def Waiting (p : Program) (s : List Char) (first i : Nat) (t : Thread) : Prop :=
  first ≤ t.began ∧ Stems p s t.began i t ∧ p.waitsAt t.label = true

/-- All threads at a place have been followed, and those that wait stand in order, the last one first. -/
structure Crowd (p : Program) (s : List Char) (first i : Nat) (ts : Threads) : Prop where
  settled : Settled p (placeAt s i) ts
  ordered : ts.waiting.Pairwise fun t u => u.began ≤ t.began
  waiting : ∀ t ∈ ts.waiting, Waiting p s first i t

/-- Wherever a way leads on from a label, a thread waits that has begun at `k` or before. -/
def Served (p : Program) (s : List Char) (i k : Nat) (ts : Threads) (label : Nat) : Prop :=
  ∀ l, ReflTransGen (p.Passes (placeAt s i)) label l → p.waitsAt l = true →
    ∃ t ∈ ts.waiting, t.label = l ∧ t.began ≤ k

/-- Threads have been put behind the others, and each of them has begun at one of some places. -/
def Grown (P : Nat → Prop) (ts ts' : Threads) : Prop :=
  ∃ new, ts'.waiting = new ++ ts.waiting ∧ ∀ t ∈ new, P t.began

theorem Framed.ne_start_of_waitsAt {l : Nat} (framed : Framed p) (waits : p.waitsAt l = true) :
    l ≠ p.start := by
  rintro rfl
  obtain ⟨body, here⟩ := framed.start
  rw [Program.waitsAt, here] at waits
  cases waits

theorem settles_add (framed : Framed p) (settled : Settled p (placeAt s i) ts) (stems : Stems p s k i t) :
    Settles p (placeAt s i) (Stems p s k i) [t] ts (add p (placeAt s i) ts t) := by
  refine settles_settle (fun t stems u member => stems.onward framed member) ?_ ?_
    (List.forall_mem_singleton.mpr stems)
  · refine { settled with goesOn := fun l n seen passes inside => ?_ }
    exact (settled.goesOn l n seen passes inside).imp id fun ⟨u, member, _⟩ => nomatch member
  · have few : ts.unseen (placeAt s i) ≤ ts.reached.size := Array.countP_le_size
    rw [settled.size] at few
    rw [List.length_singleton]
    omega

/-- A thread is added behind all those that have begun before it. -/
theorem Crowd.follow (framed : Framed p) (crowd : Crowd p s first i ts) (stems : Stems p s k i t)
    (after : first ≤ k) (last : ∀ u ∈ ts.waiting, u.began ≤ k) :
    Crowd p s first i (add p (placeAt s i) ts t) ∧
      Grown (· = k) ts (add p (placeAt s i) ts t) ∧
      Served p s i k (add p (placeAt s i) ts t) t.label := by
  have settles := settles_add framed crowd.settled stems
  generalize add p (placeAt s i) ts t = ts' at settles
  obtain ⟨settled, ⟨new, same, each⟩, -, reached⟩ := settles
  have began {u : Thread} (member : u ∈ new) : u.began = k :=
    (each u member).1.began_eq (framed.ne_start_of_waitsAt (each u member).2)
  have member_cases {u : Thread} (member : u ∈ ts'.waiting) : u ∈ new ∨ u ∈ ts.waiting := by
    rw [same] at member
    exact List.mem_append.mp member
  refine ⟨⟨settled, ?_, ?_⟩, ⟨new, same, fun u => began⟩, ?_⟩
  · rw [same, List.pairwise_append]
    refine ⟨List.pairwise_of_forall_mem_list fun u member v member' => ?_, crowd.ordered,
      fun u member v old => ?_⟩
    · rw [began member, began member']
    · rw [began member]
      exact last v old
  · intro u member
    rcases member_cases member with member | old
    · have same := began member
      exact ⟨same ▸ after, same ▸ (each u member).1, (each u member).2⟩
    · exact crowd.waiting u old
  · intro l ways waits
    have inside := Program.lt_of_waitsAt waits
    have seen := reached t (.head _) (Program.lt_of_ways ways inside)
    obtain ⟨u, member, label⟩ := settled.holds l (settled.seen_of_passes seen ways inside) waits
    refine ⟨u, member, label, ?_⟩
    rcases member_cases member with member | old
    · exact Nat.le_of_eq (began member)
    · exact last u old

theorem Grown.mem {P : Nat → Prop} (grown : Grown P ts ts') (member : t ∈ ts.waiting) : t ∈ ts'.waiting := by
  obtain ⟨new, same, -⟩ := grown
  rw [same]
  exact List.mem_append_right new member

theorem Grown.mem_cases {P : Nat → Prop} (grown : Grown P ts ts') (member : t ∈ ts'.waiting) :
    P t.began ∨ t ∈ ts.waiting := by
  obtain ⟨new, same, each⟩ := grown
  rw [same] at member
  exact (List.mem_append.mp member).imp (each t) id

theorem Served.grown {P : Nat → Prop} {label : Nat} (served : Served p s i k ts label)
    (grown : Grown P ts ts') : Served p s i k ts' label := by
  intro l ways waits
  obtain ⟨t, member, rest⟩ := served l ways waits
  exact ⟨t, grown.mem member, rest⟩

theorem Grown.refl (P : Nat → Prop) (ts : Threads) : Grown P ts ts := ⟨[], rfl, nofun⟩

theorem Grown.trans {P : Nat → Prop} {ts'' : Threads} (first : Grown P ts ts') (second : Grown P ts' ts'') :
    Grown P ts ts'' := by
  obtain ⟨new, same, each⟩ := first
  obtain ⟨new', same', each'⟩ := second
  exact ⟨new' ++ new, by rw [same', same, List.append_assoc], List.forall_mem_append.mpr ⟨each', each⟩⟩

theorem Grown.mono {P Q : Nat → Prop} (grown : Grown P ts ts') (weaker : ∀ n, P n → Q n) :
    Grown Q ts ts' := by
  obtain ⟨new, same, each⟩ := grown
  exact ⟨new, same, fun t member => weaker _ (each t member)⟩

/-! From one place to the next. -/

/-- The thread is accepted. -/
def Program.accepts (p : Program) (t : Thread) : Bool :=
  match p.code[t.label]? with
  | some .accept => true
  | _ => false

/-- A thread takes a character, if it waits for it. -/
def Program.move (p : Program) (c : Option Char) (next : Place) (ts : Threads) (t : Thread) : Threads :=
  match p.code[t.label]? with
  | some (.char set label) =>
    if c.any fun c => set.contains c.toNat then add p next ts ⟨label, t.slots⟩ else ts
  | _ => ts

theorem Program.accepts_iff : p.accepts t = true ↔ p.code[t.label]? = some .accept := by
  rw [accepts]
  split
  · next here => simp [here]
  · next other => simpa using other

/-- The threads before the first one that is accepted take the character. -/
theorem advance_eq (c : Option Char) (next : Place) (turns : List Thread) :
    advance p c next ts turns = ((turns.takeWhile (!p.accepts ·)).foldl (p.move c next) ts,
      (turns.find? p.accepts).map Thread.slots) := by
  induction turns generalizing ts with
  | nil => rfl
  | cons t turns ih =>
    rw [advance]
    cases here : p.code[t.label]? with
    | none => simp [ih, Program.accepts, Program.move, here]
    | some i =>
      cases i with
      | char set label =>
        simp only [ih, Program.accepts, Program.move, here, List.takeWhile_cons, List.find?_cons,
          Bool.not_false, if_true, List.foldl_cons]
        split <;> rfl
      | accept | split | look | save => simp [ih, Program.accepts, Program.move, here]

/-- Wherever a thread comes with the character of its place, threads wait that have begun no later. -/
def Moved (p : Program) (s : List Char) (i : Nat) (ts : Threads) (t : Thread) : Prop :=
  ∀ set n c, p.code[t.label]? = some (.char set n) → s[i]? = some c → set.contains c.toNat = true →
    Served p s (i + 1) t.began ts n

theorem Crowd.move (framed : Framed p) (crowd : Crowd p s first (i + 1) ts)
    (waiting : Waiting p s first i t) (last : ∀ u ∈ ts.waiting, u.began ≤ t.began) :
    Crowd p s first (i + 1) (p.move s[i]? (placeAt s (i + 1)) ts t) ∧
      Grown (· = t.began) ts (p.move s[i]? (placeAt s (i + 1)) ts t) ∧
      Moved p s i (p.move s[i]? (placeAt s (i + 1)) ts t) t := by
  obtain ⟨after, stems, -⟩ := waiting
  rw [Program.move]
  split
  · next set label here =>
    split
    · next fits =>
      obtain ⟨c, next, fits⟩ : ∃ c, s[i]? = some c ∧ set.contains c.toNat = true := by
        cases next : s[i]? with
        | none => rw [next] at fits; cases fits
        | some c => exact ⟨c, rfl, by rw [next] at fits; exact fits⟩
      obtain ⟨crowd, grown, served⟩ := crowd.follow framed (stems.take framed here next fits) after last
      refine ⟨crowd, grown, fun set' n c' here' next' fits' => ?_⟩
      cases here.symm.trans here'
      exact served
    · next misfits =>
      refine ⟨crowd, .refl _ _, fun set' n c here' next fits => ?_⟩
      cases here.symm.trans here'
      rw [next] at misfits
      exact absurd fits misfits
  · next other =>
    exact ⟨crowd, .refl _ _, fun set n c here => absurd here (other set n)⟩

theorem Crowd.foldl_move (framed : Framed p) {turns : List Thread} (crowd : Crowd p s first (i + 1) ts)
    (waiting : ∀ t ∈ turns, Waiting p s first i t)
    (ordered : turns.Pairwise fun t u => t.began ≤ u.began)
    (last : ∀ t ∈ turns, ∀ u ∈ ts.waiting, u.began ≤ t.began) :
    Crowd p s first (i + 1) (turns.foldl (p.move s[i]? (placeAt s (i + 1))) ts) ∧
      Grown (∃ t ∈ turns, · = t.began) ts (turns.foldl (p.move s[i]? (placeAt s (i + 1))) ts) ∧
      ∀ t ∈ turns, Moved p s i (turns.foldl (p.move s[i]? (placeAt s (i + 1))) ts) t := by
  induction turns generalizing ts with
  | nil => exact ⟨crowd, .refl _ _, nofun⟩
  | cons t turns ih =>
    rw [List.forall_mem_cons] at waiting last
    rw [List.pairwise_cons] at ordered
    obtain ⟨crowd, grown, moved⟩ := crowd.move framed waiting.1 last.1
    rw [List.foldl_cons]
    generalize p.move s[i]? (placeAt s (i + 1)) ts t = ts' at crowd grown moved
    have last' : ∀ t ∈ turns, ∀ u ∈ ts'.waiting, u.began ≤ t.began := by
      intro v member u member'
      rcases grown.mem_cases member' with began | old
      · rw [began]
        exact ordered.1 v member
      · exact last.2 v member u old
    obtain ⟨crowd, grown', moved'⟩ := ih crowd waiting.2 ordered.2 last'
    refine ⟨crowd, ?_, List.forall_mem_cons.mpr ⟨?_, moved'⟩⟩
    · exact (grown.mono fun n same => ⟨t, .head _, same⟩).trans
        (grown'.mono fun n ⟨u, member, same⟩ => ⟨u, .tail _ member, same⟩)
    · exact fun set n c here next fits => (moved set n c here next fits).grown grown'

/-! A search. -/

/-- A match may still be found that begins at `k`: no other has been found that begins no later. -/
def Open (best : Option Slots) (k : Nat) : Prop := ∀ slots ∈ best, k < slots.began

/-- The slots are those of a match that has ended before the place `i`. -/
def Found (p : Program) (s : List Char) (first i : Nat) (slots : Slots) : Prop :=
  ∃ j < i, slots[0]? = some (some slots.began) ∧ slots[1]? = some (some j) ∧ first ≤ slots.began ∧
    p.MatchesAt s slots.began j

/-- What holds when a search comes to a place, and the threads stand there that have begun before
`limit`. -/
structure Searching (p : Program) (s : List Char) (first i limit : Nat) (ts : Threads)
    (best : Option Slots) : Prop where
  crowd : Crowd p s first i ts
  covers : ∀ k l, first ≤ k → k < limit → Open best k → p.Way s k l i → p.waitsAt l = true →
    ∃ t ∈ ts.waiting, t.label = l ∧ t.began ≤ k
  found : ∀ slots ∈ best, Found p s first i slots ∧ ∀ t ∈ ts.waiting, t.began ≤ slots.began
  passed : ∀ k j, first ≤ k → Open best k → j < i → ¬ p.MatchesAt s k j

/-- The threads that have begun before a place are still there when one more begins. -/
theorem Searching.start {slots : Slots} (framed : Framed p) (room : 2 ≤ slots.size) (after : first ≤ i)
    (within : i ≤ s.length) {best : Option Slots} (searching : Searching p s first i i ts best) :
    Searching p s first i (i + 1)
      (if best.isNone then add p (placeAt s i) ts ⟨p.start, slots⟩ else ts) best := by
  obtain ⟨crowd, covers, found, passed⟩ := searching
  cases best with
  | some slots =>
    obtain ⟨⟨j, before, -, -, -, l, -, way⟩, -⟩ := found slots rfl
    refine ⟨crowd, fun k l after limit isOpen => covers k l after ?_ isOpen, found, passed⟩
    exact Nat.lt_trans (isOpen slots rfl) (Nat.lt_of_le_of_lt way.bounds.1 before)
  | none =>
    have stems : Stems p s i i ⟨p.start, slots⟩ := .start framed within room
    have last : ∀ u ∈ ts.waiting, u.began ≤ i := fun u member => (crowd.waiting u member).2.1.way.bounds.1
    obtain ⟨crowd, grown, served⟩ := crowd.follow framed stems after last
    rw [if_pos Option.isNone_none]
    generalize add p (placeAt s i) ts ⟨p.start, slots⟩ = ts' at crowd grown served
    refine ⟨crowd, fun k l after limit isOpen way waits => ?_, nofun, passed⟩
    rcases Nat.lt_or_eq_of_le (Nat.le_of_lt_succ limit) with before | rfl
    · obtain ⟨t, member, rest⟩ := covers k l after before isOpen way waits
      exact ⟨t, grown.mem member, rest⟩
    · obtain ⟨m, arrives, ways⟩ := way.origin
      cases arrives with
      | start => exact served l ways waits
      | take way => exact absurd way.bounds.1 (Nat.not_succ_le_self _)

/-- At the next place no label has been reached yet. -/
theorem Crowd.empty (crowd : Crowd p s first i ts) : Crowd p s first (i + 1) ⟨ts.reached, []⟩ := by
  have fresh (l : Nat) : ¬ (⟨ts.reached, []⟩ : Threads).Seen (placeAt s (i + 1)) l := by
    intro seen
    have old := crowd.settled.marks _ (Array.mem_of_getElem? seen)
    exact absurd old (Nat.not_succ_le_self _)
  exact ⟨⟨crowd.settled.size, fun m member => Nat.le_succ_of_le (crowd.settled.marks m member),
    fun l n seen => absurd seen (fresh l), fun l seen => absurd seen (fresh l)⟩, .nil, nofun⟩

theorem takeWhile_eq_of_find?_eq_some {α : Type} {q : α → Bool} {a : α} {l : List α}
    (found : l.find? q = some a) :
    ∃ before after, l = before ++ a :: after ∧ l.takeWhile (!q ·) = before := by
  obtain ⟨holds, before, after, rfl, none⟩ := List.find?_eq_some_iff_append.mp found
  refine ⟨before, after, rfl, ?_⟩
  rw [List.takeWhile_append_of_pos none, List.takeWhile_cons_of_neg (by simp [holds]), List.append_nil]

/-- The threads that have begun where a match may still be found are before the one that is accepted. -/
theorem mem_takeWhile_of_open {turns : List Thread} {best : Option Slots}
    (ordered : turns.Pairwise fun t u => t.began ≤ u.began) (member : t ∈ turns)
    (isOpen : Open ((turns.find? p.accepts).map Thread.slots <|> best) t.began) :
    t ∈ turns.takeWhile (!p.accepts ·) := by
  cases found : turns.find? p.accepts with
  | none =>
    rw [List.takeWhile_eq_self_iff.mpr (by simpa using found)]
    exact member
  | some u =>
    obtain ⟨before, after, rfl, same⟩ := takeWhile_eq_of_find?_eq_some found
    rw [same]
    rw [found] at isOpen
    have sooner : t.began < u.began := isOpen u.slots rfl
    obtain ⟨-, ordered, -⟩ := List.pairwise_append.mp ordered
    rcases List.mem_append.mp member with member | member
    · exact member
    · rcases List.mem_cons.mp member with rfl | member
      · exact absurd sooner (Nat.lt_irrefl _)
      · exact absurd ((List.pairwise_cons.mp ordered).1 t member) (Nat.not_le_of_lt sooner)

theorem Waiting.found (framed : Framed p) (waiting : Waiting p s first i t) (accepts : p.accepts t = true) :
    Found p s first (i + 1) t.slots := by
  obtain ⟨after, stems, waits⟩ := waiting
  have here := Program.accepts_iff.mp accepts
  have begun := stems.begun (framed.ne_start_of_waitsAt waits)
  have ended := stems.ended ((framed.last _).mp here)
  exact ⟨i, Nat.lt_succ_self i, begun, ended, after, t.label, here, stems.way⟩

theorem Open.mono {best : Option Slots} {k' : Nat} (isOpen : Open best k) (le : k' ≤ k) : Open best k' :=
  fun slots member => Nat.lt_of_le_of_lt le (isOpen slots member)

/-- The threads of a place take its character. A thread that is accepted instead ends the search for all
matches that begin no sooner. -/
theorem Searching.next (framed : Framed p) {best : Option Slots}
    (searching : Searching p s first i (i + 1) ts best) :
    Searching p s first (i + 1) (i + 1)
      (advance p s[i]? (placeAt s (i + 1)) ⟨ts.reached, []⟩ ts.waiting.reverse).1
      ((advance p s[i]? (placeAt s (i + 1)) ⟨ts.reached, []⟩ ts.waiting.reverse).2 <|> best) := by
  obtain ⟨crowd, covers, found, passed⟩ := searching
  have ordered : ts.waiting.reverse.Pairwise fun t u => t.began ≤ u.began :=
    List.pairwise_reverse.mpr crowd.ordered
  have waiting : ∀ t ∈ ts.waiting.reverse, Waiting p s first i t :=
    fun t member => crowd.waiting t (List.mem_reverse.mp member)
  have prefixed := List.takeWhile_sublist (l := ts.waiting.reverse) (!p.accepts ·)
  obtain ⟨crowd', grown, moved⟩ := crowd.empty.foldl_move framed
    (fun t member => waiting t (prefixed.subset member)) (ordered.sublist prefixed) nofun
  rw [advance_eq]
  dsimp only
  generalize List.foldl _ _ _ = ts' at crowd' grown moved
  -- A match that is still open was open before.
  have wasOpen {k : Nat} (isOpen : Open ((ts.waiting.reverse.find? p.accepts).map Thread.slots <|> best) k) :
      Open best k := by
    cases here : ts.waiting.reverse.find? p.accepts with
    | none => rwa [here] at isOpen
    | some t =>
      rw [here] at isOpen
      intro slots member
      have sooner := (found slots member).2 t (List.mem_reverse.mp (List.mem_of_find?_eq_some here))
      exact Nat.lt_of_lt_of_le (isOpen t.slots rfl) sooner
  -- And so each thread that has begun early enough takes the character.
  have still {k : Nat} {t : Thread} (member : t ∈ ts.waiting) (le : t.began ≤ k)
      (isOpen : Open ((ts.waiting.reverse.find? p.accepts).map Thread.slots <|> best) k) :
      t ∈ ts.waiting.reverse.takeWhile (!p.accepts ·) :=
    mem_takeWhile_of_open ordered (List.mem_reverse.mpr member) (isOpen.mono le)
  refine ⟨crowd', ?_, ?_, ?_⟩
  · intro k l after limit isOpen way waits
    obtain ⟨m, arrives, ways⟩ := way.origin
    cases arrives with
    | start => exact absurd limit (Nat.lt_irrefl _)
    | take way here next fits =>
      obtain ⟨t, member, rfl, le⟩ :=
        covers k _ after limit (wasOpen isOpen) way (Program.waitsAt_of_char here)
      obtain ⟨u, member, label, le'⟩ := moved t (still member le isOpen) _ _ _ here next fits l ways waits
      exact ⟨u, member, label, Nat.le_trans le' le⟩
  · intro slots member
    have began {u : Thread} (member : u ∈ ts'.waiting) :
        ∃ t ∈ ts.waiting.reverse.takeWhile (!p.accepts ·), u.began = t.began :=
      (grown.mem_cases member).resolve_right List.not_mem_nil
    cases here : ts.waiting.reverse.find? p.accepts with
    | none =>
      rw [here] at member
      obtain ⟨⟨j, before, rest⟩, sooner⟩ := found slots member
      refine ⟨⟨j, Nat.lt_succ_of_lt before, rest⟩, fun u member => ?_⟩
      obtain ⟨t, turn, same⟩ := began member
      rw [same]
      exact sooner t (List.mem_reverse.mp (prefixed.subset turn))
    | some t =>
      rw [here] at member
      cases member
      have accepted := (waiting t (List.mem_of_find?_eq_some here)).found framed (List.find?_some here)
      refine ⟨accepted, fun u member => ?_⟩
      obtain ⟨v, turn, same⟩ := began member
      obtain ⟨before, after, whole, taken⟩ := takeWhile_eq_of_find?_eq_some here
      rw [taken] at turn
      rw [whole] at ordered
      rw [same]
      exact (List.pairwise_append.mp ordered).2.2 v turn t (.head _)
  · rintro k j after isOpen before ⟨l, accepts, way⟩
    rcases Nat.lt_or_eq_of_le (Nat.le_of_lt_succ before) with before | rfl
    · exact passed k j after (wasOpen isOpen) before ⟨l, accepts, way⟩
    · obtain ⟨t, member, rfl, le⟩ := covers k l after (Nat.lt_succ_of_le way.bounds.1) (wasOpen isOpen) way
        (Program.waitsAt_of_accept accepts)
      have goesOn := List.mem_takeWhile_imp (still member le isOpen)
      rw [Program.accepts_iff.mpr accepts] at goesOn
      cases goesOn

/-- What a search gives is a match that begins at `first` or later, and before every other match. -/
def Leftmost (p : Program) (s : List Char) (first : Nat) (best : Option Slots) : Prop :=
  (∀ slots ∈ best, ∃ i, Found p s first i slots) ∧
    ∀ k j, first ≤ k → Open best k → ¬ p.MatchesAt s k j

/-- A search may end behind the text, and when no thread is left. -/
theorem Searching.leftmost {best : Option Slots} (searching : Searching p s first i i ts best)
    (ended : s.length < i ∨ ts.waiting = [] ∧ best.isSome = true) : Leftmost p s first best := by
  obtain ⟨-, covers, found, passed⟩ := searching
  refine ⟨fun slots member => ⟨i, (found slots member).1⟩, ?_⟩
  rintro k j after isOpen ⟨l, accepts, way⟩
  rcases ended with ended | ⟨none, some⟩
  · exact passed k j after isOpen (Nat.lt_of_le_of_lt way.bounds.2 ended) ⟨l, accepts, way⟩
  · obtain ⟨slots, member⟩ := Option.isSome_iff_exists.mp some
    obtain ⟨⟨j', before, -, -, -, l', -, way'⟩, -⟩ := found slots member
    have begun : k < i :=
      Nat.lt_trans (isOpen slots member) (Nat.lt_of_le_of_lt way'.bounds.1 before)
    have vacant {m : Nat} (waits : p.waitsAt m = true) (way : p.Way s k m i) : False := by
      obtain ⟨t, member, -⟩ := covers k m after begun isOpen way waits
      rw [none] at member
      cases member
    rcases Nat.lt_trichotomy j i with before | rfl | behind
    · exact passed k j after isOpen before ⟨l, accepts, way⟩
    · exact vacant (Program.waitsAt_of_accept accepts) way
    · obtain ⟨m, waits, way⟩ := way.through (Nat.le_of_lt begun) behind
      exact vacant waits way

theorem placeAt_eq {text : List Char} (here : s.drop i = text) :
    (⟨i, (placeAt s i).before, text.head?⟩ : Place) = placeAt s i := by
  rw [← here, List.head?_drop]
  rfl

theorem placeAt_succ {c : Char} {text : List Char} (here : s.drop i = c :: text) :
    (⟨i + 1, some c, text.head?⟩ : Place) = placeAt s (i + 1) := by
  have char : s[i]? = some c := by rw [← List.head?_drop, here]; rfl
  have rest : s.drop (i + 1) = text := by rw [← List.tail_drop, here]; rfl
  rw [← rest, List.head?_drop, placeAt, if_neg (Nat.succ_ne_zero i), Nat.add_sub_cancel, char]

theorem leftmost_run (framed : Framed p) {slots : Slots} (room : 2 ≤ slots.size) {text : List Char}
    {best : Option Slots} (here : s.drop i = text) (after : first ≤ i) (within : i ≤ s.length)
    (searching : Searching p s first i i ts best) :
    Leftmost p s first (run p slots i (placeAt s i).before ts best text) := by
  induction text generalizing i ts best with
  | nil =>
    have next := (searching.start framed room after within).next framed
    have past : s[i]? = none := by rw [← List.head?_drop, here]; rfl
    have behind : s.length < i + 1 := Nat.lt_succ_of_le (List.drop_eq_nil_iff.mp here)
    rw [past] at next
    rw [run, placeAt_eq here]
    have leftmost := next.leftmost (.inl behind)
    rw [advance_eq] at leftmost
    dsimp only at leftmost ⊢
    rw [advance_eq]
    exact leftmost
  | cons c text ih =>
    have next := (searching.start framed room after within).next framed
    have char : s[i]? = some c := by rw [← List.head?_drop, here]; rfl
    have rest : s.drop (i + 1) = text := by rw [← List.tail_drop, here]; rfl
    have inside : i + 1 ≤ s.length := (List.getElem?_eq_some_iff.mp char).1
    rw [char] at next
    rw [run, placeAt_eq here, placeAt_succ here]
    dsimp only
    generalize (if best.isNone = true then add p (placeAt s i) ts ⟨p.start, slots⟩ else ts) = ts' at next ⊢
    split
    · next ended =>
      obtain ⟨none, some⟩ := Bool.and_eq_true_iff.mp ended
      exact next.leftmost (.inr ⟨List.isEmpty_iff.mp none, some⟩)
    · have before : (placeAt s (i + 1)).before = some c := congrArg Place.before (placeAt_succ here).symm
      have leftmost := ih rest (Nat.le_succ_of_le after) inside next
      rwa [before] at leftmost

/-! Searches for matches. -/

theorem searching_none (p : Program) (s : List Char) (index : Nat) :
    Searching p s index index index (.none p) none := by
  have fresh (l : Nat) : ¬ (Threads.none p).Seen (placeAt s index) l := by
    intro seen
    have zero := Array.eq_of_mem_replicate (Array.mem_of_getElem? seen)
    cases zero
  refine ⟨⟨⟨Array.size_replicate, fun m member => ?_, fun l n seen => absurd seen (fresh l),
    fun l seen => absurd seen (fresh l)⟩, .nil, nofun⟩, ?_, nofun, ?_⟩
  · rw [Array.eq_of_mem_replicate member]
    exact Nat.zero_le _
  · exact fun k l after limit => absurd limit (Nat.not_lt_of_le after)
  · rintro k j after - before ⟨l, -, way⟩
    exact absurd (Nat.le_trans after way.bounds.1) (Nat.not_le_of_lt before)

/-- A match begins at `index` or later, and no other match begins before it. -/
structure IsLeftmost (p : Pattern) (s : List Char) (index : Nat) (m : Match s) : Prop where
  after : index ≤ m.whole.start
  matched : p.program.MatchesAt s m.whole.start m.whole.stop
  least : ∀ k j, index ≤ k → k < m.whole.start → ¬ p.program.MatchesAt s k j

theorem Program.MatchesAt.bounds {j : Nat} (matched : p.MatchesAt s k j) : k ≤ j ∧ j ≤ s.length := by
  obtain ⟨l, -, way⟩ := matched
  exact way.bounds

theorem find?_eq {p : Pattern} {index : Nat} (within : index ≤ s.length) :
    p.find? s index = (run p.program (Array.replicate (2 * p.groupCount + 2) none) index
      (placeAt s index).before (.none p.program) none (s.drop index)).bind fun slots =>
        (spanOf? s slots 0).map fun whole =>
          ⟨whole, (List.range p.groupCount).map fun i => spanOf? s slots (i + 1)⟩ := by
  rw [find?, if_neg (Nat.not_lt_of_le within)]
  dsimp only [placeAt, bind, pure]
  cases run _ _ _ _ _ _ _ with
  | none => rfl
  | some slots => cases here : spanOf? s slots 0 <;> simp [here]

/-- The match that is found begins first of all matches from a place on, and if none is found, there is
none. -/
theorem find?_leftmost {p : Pattern} (framed : Framed p.program) (index : Nat) :
    (∀ m, p.find? s index = some m → IsLeftmost p s index m) ∧
      (p.find? s index = none → ∀ k j, index ≤ k → ¬ p.program.MatchesAt s k j) := by
  rcases Nat.lt_or_ge s.length index with outside | within
  · have none : p.find? s index = none := by
      rw [find?, if_pos outside]
      rfl
    refine ⟨fun m found => ?_, fun _ k j after matched => ?_⟩
    · cases none.symm.trans found
    have bounds := matched.bounds
    omega
  · have room : 2 ≤ (Array.replicate (2 * p.groupCount + 2) (none : Option Nat)).size := by
      rw [Array.size_replicate]
      exact Nat.le_add_left 2 _
    obtain ⟨sound, complete⟩ :=
      leftmost_run framed room rfl (Nat.le_refl index) within (searching_none p.program s index)
    rw [find?_eq within]
    generalize run _ _ _ _ _ _ _ = best at sound complete
    cases best with
    | none => exact ⟨nofun, fun _ k j after => complete k j after nofun⟩
    | some slots =>
      obtain ⟨i, j, -, start, stop, after, matched⟩ := sound slots rfl
      obtain ⟨ordered, inside⟩ := matched.bounds
      have whole : spanOf? s slots 0 = some ⟨slots.began, j, ordered, inside⟩ := by
        simp [spanOf?, start, stop, Span.ofBounds?, ordered, inside]
      rw [Option.bind_some, whole]
      refine ⟨fun m found => ?_, nofun⟩
      cases found
      refine ⟨after, matched, fun k j after before => complete k j after fun slots same => ?_⟩
      cases same
      exact before

end Scaffold.Pattern
