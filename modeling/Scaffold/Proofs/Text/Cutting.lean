import Scaffold.Proofs.Text.Occurrence

/-! Cutting a text at the leftmost of its tokens that do not overlap. What a cut is says nothing of
how it is found: the parts make up the text, and no token begins inside a stretch between tokens. -/
namespace Scaffold.Text

inductive Chunk (α : Type) where
  | plain (s : List Char)
  | token (a : α)

/-- What stands for a part when characters and tokens are taken one by one. -/
def Chunk.items {α β : Type} (chars : Char → β) (tokens : α → β) : Chunk α → List β
  | plain s => s.map chars
  | token a => [tokens a]

/-- What is put for a part when something is put for each character and each token. -/
def Chunk.put {α β : Type} (chars : Char → List β) (tokens : α → List β) : Chunk α → List β
  | .plain s => s.flatMap chars
  | .token a => tokens a

/-- A kind of tokens: how they are written, and which of them count. -/
structure TokenForm (α : Type) where
  source : α → List Char
  valid : α → Prop

namespace TokenForm

variable {α β : Type} (f : TokenForm α)

def written : Chunk α → List Char
  | .plain s => s
  | .token a => f.source a

def joined (parts : List (Chunk α)) : List Char := parts.flatMap f.written

def StartsAt (s : List Char) : Prop := ∃ a rest, f.valid a ∧ s = f.source a ++ rest

/-- The cut of a text into tokens and the longest stretches between them. -/
structure Cuts (s : List Char) (parts : List (Chunk α)) : Prop where
  joined : f.joined parts = s
  valid : ∀ a, .token a ∈ parts → f.valid a
  leftmost : ∀ before l after, parts = before ++ .plain l :: after →
    ∀ l₁ l₂, l = l₁ ++ l₂ → l₂ ≠ [] → ¬ f.StartsAt (l₂ ++ f.joined after)
  filled : .plain [] ∉ parts
  apart : ∀ before l l' after, parts ≠ before ++ .plain l :: .plain l' :: after

/-- A text has one valid token at its front at the most, and tokens are not empty. -/
structure Definite : Prop where
  nonempty : ∀ a, f.valid a → f.source a ≠ []
  unique : ∀ a b rest rest', f.valid a → f.valid b →
    f.source a ++ rest = f.source b ++ rest' → a = b

variable {f}

@[simp] theorem joined_cons (p : Chunk α) (parts : List (Chunk α)) :
    f.joined (p :: parts) = f.written p ++ f.joined parts := rfl

@[simp] theorem written_plain (s : List Char) : f.written (.plain s) = s := rfl

@[simp] theorem written_token (a : α) : f.written (.token a) = f.source a := rfl

namespace Cuts

theorem tail {s : List Char} {p : Chunk α} {parts : List (Chunk α)} (cut : f.Cuts s (p :: parts)) :
    f.Cuts (f.joined parts) parts where
  joined := rfl
  valid a member := cut.valid a (List.mem_cons_of_mem _ member)
  leftmost before l after split := cut.leftmost (p :: before) l after (by rw [split]; rfl)
  filled member := cut.filled (List.mem_cons_of_mem _ member)
  apart before l l' after split := cut.apart (p :: before) l l' after (by rw [split]; rfl)

theorem nil : f.Cuts [] [] where
  joined := rfl
  valid _ member := absurd member List.not_mem_nil
  leftmost before _ _ split := by simp at split
  filled := List.not_mem_nil
  apart before _ _ _ := by simp

theorem token {a : α} {rest : List Char} {parts : List (Chunk α)} (valid : f.valid a)
    (cut : f.Cuts rest parts) : f.Cuts (f.source a ++ rest) (.token a :: parts) where
  joined := by simp [cut.joined]
  valid b member := by
    rcases List.mem_cons.mp member with equal | member
    · cases equal; exact valid
    · exact cut.valid b member
  leftmost before l after split := by
    cases before with
    | nil => cases (List.cons.inj split).1
    | cons _ before => exact cut.leftmost before l after (List.cons.inj split).2
  filled member := by
    rcases List.mem_cons.mp member with equal | member
    · cases equal
    · exact cut.filled member
  apart before l l' after split := by
    cases before with
    | nil => cases (List.cons.inj split).1
    | cons _ before => exact cut.apart before l l' after (List.cons.inj split).2

/-- A stretch may stand in front of a cut that does not begin with one itself. -/
theorem plain {l rest : List Char} {parts : List (Chunk α)} (filled : l ≠ [])
    (free : ∀ l₁ l₂, l = l₁ ++ l₂ → l₂ ≠ [] → ¬ f.StartsAt (l₂ ++ rest))
    (apart : ∀ l' after, parts ≠ .plain l' :: after) (cut : f.Cuts rest parts) :
    f.Cuts (l ++ rest) (.plain l :: parts) where
  joined := by simp [cut.joined]
  valid a member := by
    rcases List.mem_cons.mp member with equal | member
    · cases equal
    · exact cut.valid a member
  leftmost before m after split := by
    cases before with
    | nil =>
      obtain ⟨equal, rfl⟩ := List.cons.inj split
      cases equal
      rw [cut.joined]
      exact free
    | cons _ before => exact cut.leftmost before m after (List.cons.inj split).2
  filled member := by
    rcases List.mem_cons.mp member with equal | member
    · cases equal; exact filled rfl
    · exact cut.filled member
  apart before m m' after split := by
    cases before with
    | nil => exact apart m' after (List.cons.inj split).2
    | cons _ before => exact cut.apart before m m' after (List.cons.inj split).2

/-- A text in which no token begins is one stretch. -/
theorem ofPlain {l : List Char} (filled : l ≠ [])
    (free : ∀ l₁ l₂, l = l₁ ++ l₂ → l₂ ≠ [] → ¬ f.StartsAt l₂) : f.Cuts l [.plain l] := by
  have alone := plain filled (fun l₁ l₂ split full => by simpa using free l₁ l₂ split full)
    (by simp) nil
  simpa using alone

theorem ofToken {a : α} (valid : f.valid a) : f.Cuts (f.source a) [.token a] := by
  have alone := token valid nil
  simpa using alone

/-- A character at which no token begins joins the stretch behind it. -/
theorem cons {c : Char} {s : List Char} {parts : List (Chunk α)} (free : ¬ f.StartsAt (c :: s))
    (cut : f.Cuts s parts) : ∃ parts', f.Cuts (c :: s) parts' := by
  have separate {rest : List (Chunk α)} (cut : f.Cuts s rest)
      (apart : ∀ l' after, rest ≠ .plain l' :: after) : ∃ parts', f.Cuts (c :: s) parts' := by
    refine ⟨.plain [c] :: rest, plain (l := [c]) (List.cons_ne_nil c []) ?_ apart cut⟩
    intro l₁ l₂ split full
    rcases List.cons_eq_append_iff.mp split with ⟨-, rfl⟩ | ⟨_, -, empty⟩
    · exact free
    · exact absurd (List.append_eq_nil_iff.mp empty.symm).2 full
  cases parts with
  | nil => exact separate cut (by simp)
  | cons p parts =>
    cases p with
    | token a => exact separate cut (by simp)
    | plain l =>
      have joined : l ++ f.joined parts = s := by simpa using cut.joined
      refine ⟨.plain (c :: l) :: parts, ?_⟩
      rw [← joined, ← List.cons_append]
      refine plain (List.cons_ne_nil c l) ?_
        (fun l' after same => cut.apart [] l l' after (by simp [same])) cut.tail
      intro l₁ l₂ split full
      rcases List.cons_eq_append_iff.mp split with ⟨-, rfl⟩ | ⟨l₁, -, rest⟩
      · rw [List.cons_append, joined]
        exact free
      · exact cut.leftmost [] l parts rfl l₁ l₂ rest full

end Cuts

theorem exists_cuts (definite : f.Definite) (s : List Char) : ∃ parts, f.Cuts s parts := by
  induction size : s.length using Nat.strongRecOn generalizing s with
  | ind n ih =>
    by_cases start : f.StartsAt s
    · obtain ⟨a, rest, valid, rfl⟩ := start
      have shorter : rest.length < n := by
        have := List.length_pos_iff.mpr (definite.nonempty a valid)
        simp only [List.length_append] at size
        omega
      obtain ⟨parts, cut⟩ := ih _ shorter rest rfl
      exact ⟨_, cut.token valid⟩
    · cases s with
      | nil => exact ⟨[], .nil⟩
      | cons c s =>
        obtain ⟨parts, cut⟩ := ih _ (by simp [← size]) s rfl
        exact cut.cons start

namespace Cuts

theorem eq_nil (definite : f.Definite) {parts : List (Chunk α)} (cut : f.Cuts [] parts) :
    parts = [] := by
  cases parts with
  | nil => rfl
  | cons p parts =>
    have empty := (List.append_eq_nil_iff.mp cut.joined).1
    cases p with
    | plain l =>
      rw [written_plain] at empty
      exact absurd (by simp [empty]) cut.filled
    | token a => exact absurd empty (definite.nonempty a (cut.valid a (by simp)))

/-- A stretch at the front of one cut is at least as long as that of another cut. -/
theorem plain_le {s l l' : List Char} {parts parts' : List (Chunk α)}
    (cut : f.Cuts s (.plain l :: parts)) (cut' : f.Cuts s (.plain l' :: parts')) :
    l'.length ≤ l.length := by
  by_contra less
  have same : l ++ f.joined parts = l' ++ f.joined parts' := cut.joined.trans cut'.joined.symm
  have inside : l <+: l' :=
    List.prefix_of_prefix_length_le ⟨_, same⟩ ⟨_, rfl⟩ (by omega)
  obtain ⟨d, rfl⟩ := inside
  have rest : f.joined parts = d ++ f.joined parts' := by simpa using same
  have full : d ≠ [] := by rintro rfl; simp at less
  cases parts with
  | nil => exact full (List.append_eq_nil_iff.mp rest.symm).1
  | cons p parts =>
    cases p with
    | plain m => exact cut.apart [] l m parts rfl
    | token a =>
      refine cut'.leftmost [] _ parts' rfl l d rfl full ⟨a, f.joined parts, ?_, ?_⟩
      · exact cut.valid a (by simp)
      · rw [← rest]; rfl

theorem head_eq (definite : f.Definite) {s : List Char} {p p' : Chunk α}
    {parts parts' : List (Chunk α)} (cut : f.Cuts s (p :: parts)) (cut' : f.Cuts s (p' :: parts')) :
    p = p' := by
  have same : f.written p ++ f.joined parts = f.written p' ++ f.joined parts' :=
    cut.joined.trans cut'.joined.symm
  cases p with
  | token a =>
    have valid := cut.valid a (by simp)
    cases p' with
    | token a' => rw [definite.unique a a' _ _ valid (cut'.valid a' (by simp)) same]
    | plain l' =>
      have full : l' ≠ [] := by rintro rfl; exact cut'.filled (by simp)
      exact absurd ⟨a, _, valid, same.symm⟩ (cut'.leftmost [] l' parts' rfl [] l' rfl full)
  | plain l =>
    cases p' with
    | token a' =>
      have full : l ≠ [] := by rintro rfl; exact cut.filled (by simp)
      exact absurd ⟨a', _, cut'.valid a' (by simp), same⟩
        (cut.leftmost [] l parts rfl [] l rfl full)
    | plain l' =>
      have size : l.length = l'.length := Nat.le_antisymm (cut'.plain_le cut) (cut.plain_le cut')
      exact congrArg Chunk.plain (List.append_inj same size).1

theorem unique (definite : f.Definite) {s : List Char} {parts parts' : List (Chunk α)}
    (cut : f.Cuts s parts) (cut' : f.Cuts s parts') : parts' = parts := by
  induction parts generalizing s parts' with
  | nil =>
    have empty : s = [] := cut.joined.symm
    subst empty
    exact cut'.eq_nil definite
  | cons p parts ih =>
    cases parts' with
    | nil =>
      have empty : s = [] := cut'.joined.symm
      subst empty
      exact (cut.eq_nil definite).symm
    | cons p' parts' =>
      have heads : p = p' := head_eq definite cut cut'
      subst heads
      have same : f.joined parts = f.joined parts' :=
        List.append_cancel_left (cut.joined.trans cut'.joined.symm)
      have rest : f.Cuts (f.joined parts) parts' := same ▸ cut'.tail
      rw [ih cut.tail rest]

/-- A function that puts something for each token and each other character, one after another, goes
through the cut. -/
theorem append_eq {chars : Char → List β} {tokens : α → List β} (run : List Char → List β)
    (empty : run [] = [])
    (step : ∀ a rest, f.valid a → run (f.source a ++ rest) = tokens a ++ run rest)
    (skip : ∀ c rest, ¬ f.StartsAt (c :: rest) → run (c :: rest) = chars c ++ run rest)
    {s : List Char} {parts : List (Chunk α)} (cut : f.Cuts s parts) :
    run s = parts.flatMap (Chunk.put chars tokens) := by
  induction parts generalizing s with
  | nil =>
    rw [← cut.joined]
    exact empty
  | cons p parts ih =>
    rw [← cut.joined, joined_cons, List.flatMap_cons, ← ih cut.tail]
    cases p with
    | token a => exact step a _ (cut.valid a (by simp))
    | plain l =>
      have free := cut.leftmost [] l parts rfl
      clear cut
      -- No token begins at any character of the stretch, so they are taken one by one.
      induction l with
      | nil => rfl
      | cons c l more =>
        have start : ¬ f.StartsAt (c :: (l ++ f.joined parts)) :=
          free [] (c :: l) rfl (List.cons_ne_nil c l)
        have others := more fun l₁ l₂ split => free (c :: l₁) l₂ (by rw [split]; rfl)
        simp only [Chunk.put, written_plain] at others ⊢
        rw [List.cons_append, skip c _ start, others, List.flatMap_cons, List.append_assoc]

/-- A function that takes tokens and other characters one after another goes through the cut. -/
theorem flatMap_eq {chars : Char → β} {tokens : α → β} (run : List Char → List β)
    (empty : run [] = [])
    (step : ∀ a rest, f.valid a → run (f.source a ++ rest) = tokens a :: run rest)
    (skip : ∀ c rest, ¬ f.StartsAt (c :: rest) → run (c :: rest) = chars c :: run rest)
    {s : List Char} {parts : List (Chunk α)} (cut : f.Cuts s parts) :
    run s = parts.flatMap (Chunk.items chars tokens) := by
  have single : Chunk.items chars tokens = Chunk.put (fun c => [chars c]) fun a => [tokens a] := by
    funext p
    cases p with
    | plain l => exact List.map_eq_flatMap
    | token a => rfl
  rw [single]
  exact cut.append_eq run empty step skip

end Cuts

end TokenForm

end Scaffold.Text
