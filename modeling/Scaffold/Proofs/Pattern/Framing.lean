import Scaffold.Proofs.Pattern.Numbering

/-! The frame of a program that recognizes a pattern: it begins by keeping the place and is not entered
again, and what it accepts it accepts right after it has kept the place once more. -/
namespace Scaffold.Pattern

def Instruction.targets : Instruction → List Nat
  | .accept => []
  | .char _ next => [next]
  | .split first second => [first, second]
  | .look _ next => [next]
  | .save _ next => [next]

/-- The slot zero is for the place where a match begins, and the slot one for the place where it ends. -/
structure Framed (p : Program) : Prop where
  start : ∃ body, p.code[p.start]? = some (.save 0 body)
  unentered : ∀ (l : Nat) (i : Instruction), p.code[l]? = some i → p.start ∉ i.targets
  slotZero : ∀ l next : Nat, p.code[l]? = some (.save 0 next) → l = p.start
  last : ∀ l : Nat, p.code[l]? = some .accept ↔ l = 0
  stop : ∀ (l : Nat) (i : Instruction), p.code[l]? = some i → 0 ∈ i.targets → i = .save 1 0

namespace Program

/-! Instructions written from a label on. -/

/-- The labels from `base` on, and the one to go on at. -/
def IsLabel (base next size label : Nat) : Prop := label = next ∨ base ≤ label ∧ label < size

/-- The instructions from `base` on lead to each other and to `next`. They accept nothing but at the
labels that are still to be filled in. -/
structure Confined (base next : Nat) (holes : List Nat) (code : Array Instruction) : Prop where
  accepts : ∀ l, base ≤ l → code[l]? = some .accept → l ∈ holes
  leads : ∀ l i, base ≤ l → code[l]? = some i → ∀ t ∈ i.targets, IsLabel base next code.size t
  keeps : ∀ l n, base ≤ l → code[l]? ≠ some (.save 0 n)

/-- What has been written: a label and more code. -/
structure Wrote (base next : Nat) (holes : List Nat) (code : Array Instruction)
    (r : Nat × Array Instruction) : Prop where
  confined : Confined base next holes r.2
  label : IsLabel base next r.2.size r.1
  size : code.size ≤ r.2.size
  before : ∀ l < base, r.2[l]? = code[l]?

/-- A part that may be written in front of any label. -/
def Turns (base next : Nat) (turn : Nat → Write Nat) : Prop :=
  ∀ holes code label, base ≤ code.size → Confined base next holes code →
    IsLabel base next code.size label → Wrote base next holes code (turn label code)

variable {base next : Nat} {holes : List Nat} {code : Array Instruction}

theorem IsLabel.mono {size size' label : Nat} (valid : IsLabel base next size label)
    (le : size ≤ size') : IsLabel base next size' label :=
  valid.imp id fun inside => ⟨inside.1, Nat.lt_of_lt_of_le inside.2 le⟩

theorem Wrote.refl {label : Nat} (confined : Confined base next holes code)
    (valid : IsLabel base next code.size label) : Wrote base next holes code (label, code) :=
  ⟨confined, valid, Nat.le_refl _, fun _ _ => rfl⟩

theorem Wrote.trans {r r' : Nat × Array Instruction} (first : Wrote base next holes code r)
    (second : Wrote base next holes r.2 r') : Wrote base next holes code r' :=
  ⟨second.confined, second.label, Nat.le_trans first.size second.size,
    fun l below => (second.before l below).trans (first.before l below)⟩

theorem push_cases {i j : Instruction} {l : Nat} (here : (code.push i)[l]? = some j) :
    l = code.size ∧ j = i ∨ code[l]? = some j := by
  rw [Array.getElem?_push] at here
  split at here
  · next same => exact .inl ⟨same, (Option.some.inj here).symm⟩
  · exact .inr here

theorem fill_cases {i j : Instruction} {n l : Nat} (here : (code.setIfInBounds n i)[l]? = some j) :
    j = i ∨ n ≠ l ∧ code[l]? = some j := by
  rw [Array.getElem?_setIfInBounds] at here
  split at here
  · split at here
    · exact .inl (Option.some.inj here).symm
    · cases here
  · next other => exact .inr ⟨other, here⟩

theorem Confined.push {i : Instruction} (confined : Confined base next holes code)
    (accepts : i = .accept → code.size ∈ holes)
    (leads : ∀ t ∈ i.targets, IsLabel base next code.size t) (keeps : ∀ n, i ≠ .save 0 n) :
    Confined base next holes (code.push i) where
  accepts l above here := by
    obtain ⟨rfl, same⟩ | here := push_cases here
    · exact accepts same.symm
    · exact confined.accepts l above here
  leads l j above here t member := by
    rw [Array.size_push]
    obtain ⟨-, rfl⟩ | here := push_cases here
    · exact (leads t member).mono (Nat.le_succ _)
    · exact (confined.leads l j above here t member).mono (Nat.le_succ _)
  keeps l n above here := by
    obtain ⟨-, same⟩ | here := push_cases here
    · exact keeps n same.symm
    · exact confined.keeps l n above here

theorem Wrote.emit {i : Instruction} (large : base ≤ code.size)
    (confined : Confined base next holes code) (accepts : i = .accept → code.size ∈ holes)
    (leads : ∀ t ∈ i.targets, IsLabel base next code.size t) (keeps : ∀ n, i ≠ .save 0 n) :
    Wrote base next holes code (emit i code) where
  confined := confined.push accepts leads keeps
  label := .inr ⟨large, by rw [Program.emit, Array.size_push]; exact Nat.lt_succ_self _⟩
  size := by rw [Program.emit, Array.size_push]; exact Nat.le_succ _
  before l below := by rw [Program.emit, Array.getElem?_push, if_neg (by omega)]

theorem targets_choice {greedy : Bool} {turn leave t : Nat} (member : t ∈ (choice greedy turn leave).targets) :
    t = turn ∨ t = leave := by
  cases greedy
  · simpa [choice, Instruction.targets, or_comm] using member
  · simpa [choice, Instruction.targets] using member

theorem Wrote.emit_choice (greedy : Bool) {turn leave : Nat} (large : base ≤ code.size)
    (confined : Confined base next holes code) (first : IsLabel base next code.size turn)
    (second : IsLabel base next code.size leave) :
    Wrote base next holes code (Program.emit (choice greedy turn leave) code) := by
  refine .emit large confined ?_ ?_ ?_
  · cases greedy <;> nofun
  · intro t member
    rcases targets_choice member with rfl | rfl
    · exact first
    · exact second
  · cases greedy <;> nofun

/-- A label is taken, a turn is written that goes on there, and then the label is filled in. -/
theorem wrote_again {turn : Nat → Write Nat} {leave : Nat} (greedy : Bool)
    (turns : Turns base next turn) (large : base ≤ code.size) (confined : Confined base next holes code)
    (valid : IsLabel base next code.size leave) :
    let r := turn code.size (code.push .accept)
    Wrote base next holes code (r.1, r.2.setIfInBounds code.size (choice greedy r.1 leave)) ∧
      code.size < r.2.size := by
  have opened : Confined base next (code.size :: holes) (code.push .accept) := by
    refine Confined.push ?_ (fun _ => .head _) nofun nofun
    exact ⟨fun l above here => .tail _ (confined.accepts l above here), confined.leads, confined.keeps⟩
  have wrote := turns (code.size :: holes) (code.push .accept) code.size
    (by rw [Array.size_push]; omega) opened (.inr ⟨large, by rw [Array.size_push]; omega⟩)
  obtain ⟨inner, label, size, before⟩ := wrote
  rw [Array.size_push] at size
  refine ⟨⟨⟨?_, ?_, ?_⟩, ?_, ?_, ?_⟩, size⟩
  · intro l above here
    obtain same | ⟨other, here⟩ := fill_cases here
    · cases greedy <;> cases same
    · exact (List.mem_cons.mp (inner.accepts l above here)).resolve_left other.symm
  · intro l i above here t member
    rw [Array.size_setIfInBounds]
    obtain rfl | ⟨-, here⟩ := fill_cases here
    · rcases targets_choice member with rfl | rfl
      · exact label
      · exact valid.mono (by omega)
    · exact inner.leads l i above here t member
  · intro l n above here
    obtain same | ⟨-, here⟩ := fill_cases here
    · cases greedy <;> cases same
    · exact inner.keeps l n above here
  · rw [Array.size_setIfInBounds]
    exact label
  · rw [Array.size_setIfInBounds]
    omega
  · intro l below
    rw [Array.getElem?_setIfInBounds, if_neg (by omega), before l below, Array.getElem?_push,
      if_neg (by omega)]

theorem wrote_loop {turn : Nat → Write Nat} {leave : Nat} (greedy : Bool)
    (turns : Turns base next turn) (large : base ≤ code.size) (confined : Confined base next holes code)
    (valid : IsLabel base next code.size leave) :
    Wrote base next holes code (loop greedy turn leave code) :=
  (wrote_again greedy turns large confined valid).1

theorem wrote_star {turn : Nat → Write Nat} {leave : Nat} (greedy nullable : Bool)
    (turns : Turns base next turn) (large : base ≤ code.size) (confined : Confined base next holes code)
    (valid : IsLabel base next code.size leave) :
    Wrote base next holes code (star greedy nullable turn leave code) := by
  cases nullable with
  | false =>
    obtain ⟨wrote, inside⟩ := wrote_again greedy turns large confined valid
    refine ⟨wrote.confined, .inr ⟨large, ?_⟩, wrote.size, wrote.before⟩
    exact Nat.lt_of_lt_of_eq inside Array.size_setIfInBounds.symm
  | true =>
    have wrote := wrote_loop greedy turns large confined valid
    exact wrote.trans (.emit_choice greedy (Nat.le_trans large wrote.size) wrote.confined wrote.label
      (valid.mono wrote.size))

theorem wrote_times {turn : Nat → Write Nat} (turns : Turns base next turn) (n : Nat) {label : Nat}
    (large : base ≤ code.size) (confined : Confined base next holes code)
    (valid : IsLabel base next code.size label) :
    Wrote base next holes code (times turn label n code) := by
  induction n generalizing code label with
  | zero => exact .refl confined valid
  | succ n ih =>
    have first := turns holes code label large confined valid
    exact first.trans (ih (Nat.le_trans large first.size) first.confined first.label)

theorem wrote_upTo {turn : Nat → Write Nat} {leave : Nat} (greedy : Bool)
    (turns : Turns base next turn) (n : Nat) {rest : Nat} (large : base ≤ code.size)
    (confined : Confined base next holes code) (valid : IsLabel base next code.size leave)
    (onward : IsLabel base next code.size rest) :
    Wrote base next holes code (upTo greedy turn leave rest n code) := by
  induction n generalizing code rest with
  | zero => exact .refl confined onward
  | succ n ih =>
    have first := turns holes code rest large confined onward
    have larger := Nat.le_trans large first.size
    have second := Wrote.emit_choice greedy larger first.confined first.label
      (valid.mono first.size)
    have both := first.trans second
    exact both.trans (ih (Nat.le_trans larger second.size) second.confined (valid.mono both.size)
      second.label)

/-- What is written for an expression keeps the place under the number zero nowhere. -/
theorem turns_write {e : Expr} (lacks : e.Lacks 0) : Turns base next fun label => write label e := by
  intro holes code label large confined valid
  induction e generalizing holes code label with
  | empty => exact .refl confined valid
  | char set =>
    exact .emit large confined nofun (by simpa [Instruction.targets] using valid) nofun
  | look l =>
    exact .emit large confined nofun (by simpa [Instruction.targets] using valid) nofun
  | seq e f ihe ihf =>
    obtain ⟨first, second⟩ := Expr.lacks_seq.mp lacks
    have after := ihf second holes code label large confined valid
    exact after.trans (ihe first _ _ _ (Nat.le_trans large after.size) after.confined after.label)
  | alt e f ihe ihf =>
    obtain ⟨first, second⟩ := Expr.lacks_alt.mp lacks
    have right := ihf second holes code label large confined valid
    have larger := Nat.le_trans large right.size
    have left := ihe first holes _ label larger right.confined (valid.mono right.size)
    refine (right.trans left).trans (.emit (Nat.le_trans larger left.size) left.confined nofun ?_ nofun)
    simpa [Instruction.targets] using ⟨left.label, right.label.mono left.size⟩
  | rep min max greedy e ih =>
    have turns : Turns base next fun label => write label e := ih (Expr.lacks_rep.mp lacks)
    cases max with
    | some max =>
      have optional := wrote_upTo greedy turns (max - min) large confined valid valid
      exact optional.trans
        (wrote_times turns min (Nat.le_trans large optional.size) optional.confined optional.label)
    | none =>
      show Wrote base next holes code (write label (.rep min none greedy e) code)
      by_cases none : min = 0
      · rw [write, if_pos none]
        exact wrote_star greedy e.isNullable turns large confined valid
      · have looped := wrote_loop greedy turns large confined valid
        rw [write, if_neg none]
        exact looped.trans
          (wrote_times turns (min - 1) (Nat.le_trans large looped.size) looped.confined looped.label)
  | group index e ih =>
    obtain ⟨numbered, inner⟩ := Expr.lacks_group.mp lacks
    have close := Wrote.emit (i := .save (2 * index + 1) label) large confined nofun
      (by simpa [Instruction.targets] using valid) nofun
    have larger := Nat.le_trans large close.size
    have body := ih inner holes _ code.size larger close.confined close.label
    refine (close.trans body).trans (.emit (Nat.le_trans larger body.size) body.confined nofun ?_ ?_)
    · intro t member
      obtain rfl := List.mem_singleton.mp member
      exact body.label
    · intro n same
      injection same with slot
      omega

end Program

/-- The program of an expression: what it accepts and the last place it keeps are in front, and the
first place it keeps is at the end. -/
theorem framed_ofExpr {e : Expr} (lacks : e.Lacks 0) : Framed (.ofExpr e) := by
  let front : Array Instruction := #[.accept, .save 1 0]
  have beyond {l : Nat} (above : 2 ≤ l) : front[l]? = none := Array.getElem?_eq_none above
  have wrote : Program.Wrote 2 1 [] front (Program.write 1 e front) :=
    Program.turns_write lacks [] front 1 (Nat.le_refl _)
      ⟨fun l above here => (by rw [beyond above] at here; cases here),
        fun l i above here => (by rw [beyond above] at here; cases here),
        fun l n above here => (by rw [beyond above] at here; cases here)⟩ (.inl rfl)
  generalize written : Program.write 1 e front = r at wrote
  obtain ⟨body, code⟩ := r
  have program : Program.ofExpr e = ⟨code.push (.save 0 body), code.size⟩ := by
    show (let r := Program.emit (.save 0 (Program.write 1 e front).1) (Program.write 1 e front).2
      (⟨r.2, r.1⟩ : Program)) = _
    rw [written]
    rfl
  obtain ⟨confined, label, size, before⟩ := wrote
  -- The last instruction is the one that is written here; below it are the front and the body.
  have parts {l : Nat} {i : Instruction} (here : (code.push (.save 0 body))[l]? = some i) :
      l = code.size ∧ i = .save 0 body ∨ l = 0 ∧ i = .accept ∨ l = 1 ∧ i = .save 1 0 ∨
        2 ≤ l ∧ code[l]? = some i := by
    obtain last | here := Program.push_cases here
    · exact .inl last
    · match l with
      | 0 =>
        rw [before 0 (by omega)] at here
        cases here
        exact .inr (.inl ⟨rfl, rfl⟩)
      | 1 =>
        rw [before 1 (by omega)] at here
        cases here
        exact .inr (.inr (.inl ⟨rfl, rfl⟩))
      | l + 2 => exact .inr (.inr (.inr ⟨Nat.le_add_left 2 l, here⟩))
  have large : 2 ≤ code.size := size
  have inside {t : Nat} (valid : Program.IsLabel 2 1 code.size t) : t ≠ 0 ∧ t ≠ code.size := by
    rcases valid with rfl | ⟨above, below⟩ <;> omega
  rw [program]
  refine ⟨⟨body, Array.getElem?_push_size⟩, ?_, ?_, ?_, ?_⟩
  · intro l i here member
    rcases parts here with ⟨-, rfl⟩ | ⟨-, rfl⟩ | ⟨-, rfl⟩ | ⟨above, here⟩
    · exact absurd (List.mem_singleton.mp member).symm (inside label).2
    · cases member
    · have zero := List.mem_singleton.mp member
      dsimp only at zero
      omega
    · exact (inside (confined.leads l i above here _ member)).2 rfl
  · intro l next here
    rcases parts here with ⟨same, -⟩ | ⟨-, other⟩ | ⟨-, other⟩ | ⟨above, here⟩
    · exact same
    · cases other
    · cases other
    · exact absurd here (confined.keeps l next above)
  · refine fun l => ⟨fun here => ?_, ?_⟩
    · rcases parts here with ⟨-, other⟩ | ⟨zero, -⟩ | ⟨-, other⟩ | ⟨above, here⟩
      · cases other
      · exact zero
      · cases other
      · cases confined.accepts l above here
    · rintro rfl
      rw [Array.getElem?_push, if_neg (by omega), before 0 (by omega)]
      rfl
  · intro l i here member
    rcases parts here with ⟨-, rfl⟩ | ⟨-, rfl⟩ | ⟨-, rfl⟩ | ⟨above, here⟩
    · exact absurd (List.mem_singleton.mp member).symm (inside label).1
    · cases member
    · rfl
    · exact absurd rfl (inside (confined.leads l i above here _ member)).1

end Scaffold.Pattern
