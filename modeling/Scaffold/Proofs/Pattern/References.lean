import Mathlib.Data.List.Forall2
import Mathlib.Tactic.IntervalCases
import Scaffold.Pattern.Replacement

/-! The references of a replacement. How a reference is written is told apart from how it is read, and so
is the text that it stands for. -/
namespace Scaffold.Pattern

namespace Reference

/-! Written references. -/

def IsGroup (info : GroupInfo) (index : Nat) : Prop := 1 ≤ index ∧ index ≤ info.count

/-- What stands behind a dollar sign, in front of `rest`, when the two are a reference. -/
inductive Spells (info : GroupInfo) : List Char → List Char → Reference → Prop where
  | dollar {rest : List Char} : Spells info ['$'] rest (.plain '$')
  | whole {rest : List Char} : Spells info ['&'] rest .whole
  | before {rest : List Char} : Spells info ['\x60'] rest .before
  | after {rest : List Char} : Spells info ['\''] rest .after
  | two {a b : Nat} {rest : List Char} (tens : a < 10) (ones : b < 10) (isGroup : IsGroup info (10 * a + b)) :
      Spells info [a.digitChar, b.digitChar] rest (.group (10 * a + b))
  | one {a : Nat} {rest : List Char} (digit : a < 10) (isGroup : IsGroup info a)
      (alone : ∀ b < 10, ∀ more, rest = b.digitChar :: more → ¬ IsGroup info (10 * a + b)) :
      Spells info [a.digitChar] rest (.group a)
  | named {name rest : List Char} (hasNames : info.hasNames = true) (unclosed : '>' ∉ name) :
      Spells info ('<' :: name ++ ['>']) rest (.named name)

/-- The cut of a replacement into references, each with the characters that it is written with. A dollar
sign that begins no reference stands for itself. -/
inductive Tokenized (info : GroupInfo) : List Char → List (List Char × Reference) → Prop where
  | nil : Tokenized info [] []
  | char {c : Char} {s : List Char} {parts : List (List Char × Reference)} (ordinary : c ≠ '$')
      (rest : Tokenized info s parts) : Tokenized info (c :: s) (([c], .plain c) :: parts)
  | reference {used s : List Char} {r : Reference} {parts : List (List Char × Reference)}
      (spells : Spells info used s r) (rest : Tokenized info s parts) :
      Tokenized info ('$' :: used ++ s) (('$' :: used, r) :: parts)
  | dollar {s : List Char} {parts : List (List Char × Reference)}
      (alone : ∀ used rest r, s = used ++ rest → ¬ Spells info used rest r) (rest : Tokenized info s parts) :
      Tokenized info ('$' :: s) ((['$'], .plain '$') :: parts)

variable {info : GroupInfo} {s used rest : List Char} {r : Reference}

theorem isGroup_iff {index : Nat} : isGroup info index = true ↔ IsGroup info index := by
  simp [isGroup, IsGroup]

theorem digit?_eq_some_iff {c : Char} {n : Nat} : digit? c = some n ↔ n < 10 ∧ c = n.digitChar := by
  constructor
  · intro digit
    rw [digit?] at digit
    split at digit
    · next isDigit =>
      cases digit
      obtain ⟨low, high⟩ := Char.isDigit_iff_toNat.mp isDigit
      change 48 ≤ c.toNat at low
      change c.toNat ≤ 57 at high
      have small : c.toNat - 48 < 10 := by omega
      refine ⟨small, Char.toNat_inj.mp ?_⟩
      have zero : '0'.toNat = 48 := rfl
      rw [zero, Nat.toNat_digitChar_of_lt_ten small]
      omega
    · cases digit
  · rintro ⟨small, rfl⟩
    interval_cases n <;> rfl

/-- The group with a number of two digits of which the first has been read. -/
def second? (info : GroupInfo) (one : Nat) : List Char → Option (Nat × List Char)
  | b :: s => (digit? b).bind fun d =>
    if isGroup info (10 * one + d) then some (10 * one + d, s) else none
  | [] => none

theorem second?_eq_some_iff {one n : Nat} :
    second? info one s = some (n, rest) ↔
      ∃ b < 10, s = b.digitChar :: rest ∧ n = 10 * one + b ∧ IsGroup info (10 * one + b) := by
  cases s with
  | nil => simp [second?]
  | cons c s =>
    rw [second?, Option.bind_eq_some_iff]
    constructor
    · rintro ⟨b, digit, given⟩
      obtain ⟨small, rfl⟩ := digit?_eq_some_iff.mp digit
      split at given
      · next valid =>
        cases given
        exact ⟨b, small, rfl, rfl, isGroup_iff.mp valid⟩
      · cases given
    · rintro ⟨b, small, same, rfl, valid⟩
      cases same
      exact ⟨b, digit?_eq_some_iff.mpr ⟨small, rfl⟩, by rw [if_pos (isGroup_iff.mpr valid)]⟩

theorem number?_cons (c : Char) (s : List Char) :
    number? info (c :: s) = (digit? c).bind fun one =>
      (second? info one s).or (if isGroup info one then some (one, s) else none) := by
  rw [number?]
  cases digit? c with
  | none => rfl
  | some one =>
    simp only [Option.bind_eq_bind, Option.bind_some, Option.orElse_eq_orElse, Option.orElse_eq_or]
    cases s <;> rfl

theorem number?_eq_some_iff {n : Nat} :
    number? info s = some (n, rest) ↔ ∃ used, s = used ++ rest ∧ Spells info used rest (.group n) := by
  constructor
  · intro read
    cases s with
    | nil => cases read
    | cons c s =>
      rw [number?_cons, Option.bind_eq_some_iff] at read
      obtain ⟨a, digit, read⟩ := read
      obtain ⟨small, rfl⟩ := digit?_eq_some_iff.mp digit
      rcases Option.or_eq_some_iff.mp read with two | ⟨none, one⟩
      · obtain ⟨b, small', rfl, rfl, valid⟩ := second?_eq_some_iff.mp two
        exact ⟨[a.digitChar, b.digitChar], rfl, .two small small' valid⟩
      · split at one
        · next valid =>
          injection one with same
          injection same with index rest
          subst index rest
          refine ⟨[a.digitChar], rfl, .one small (isGroup_iff.mp valid) ?_⟩
          rintro b small' more rfl valid'
          cases none.symm.trans (second?_eq_some_iff.mpr ⟨b, small', rfl, rfl, valid'⟩)
        · cases one
  · rintro ⟨used, rfl, spells⟩
    cases spells with
    | two tens ones valid =>
      rw [List.cons_append, List.singleton_append, number?_cons, digit?_eq_some_iff.mpr ⟨tens, rfl⟩,
        Option.bind_some, second?_eq_some_iff.mpr ⟨_, ones, rfl, rfl, valid⟩]
      rfl
    | one digit valid alone =>
      have none : second? info n rest = none := by
        refine Option.eq_none_iff_forall_ne_some.mpr ?_
        rintro ⟨m, more⟩ two
        obtain ⟨b, small, rfl, -, valid⟩ := second?_eq_some_iff.mp two
        exact alone b small more rfl valid
      rw [List.singleton_append, number?_cons, digit?_eq_some_iff.mpr ⟨digit, rfl⟩, Option.bind_some, none,
        if_pos (isGroup_iff.mpr valid)]
      rfl

theorem read?_digitChar {a : Nat} (small : a < 10) (s : List Char) :
    read? info (a.digitChar :: s) =
      (number? info (a.digitChar :: s)).map fun (index, rest) => (group index, rest) := by
  interval_cases a <;> rfl

theorem read?_of_number? {n : Nat} (number : number? info s = some (n, rest)) :
    read? info s = some (group n, rest) := by
  cases s with
  | nil => cases number
  | cons c s =>
    have first := number
    rw [number?_cons, Option.bind_eq_some_iff] at first
    obtain ⟨a, digit, -⟩ := first
    obtain ⟨small, rfl⟩ := digit?_eq_some_iff.mp digit
    rw [read?_digitChar small, number]
    rfl

theorem takeWhile_unclosed {name : List Char} (unclosed : '>' ∉ name) (rest : List Char) :
    (name ++ '>' :: rest).takeWhile (· ≠ '>') = name ∧
      (name ++ '>' :: rest).dropWhile (· ≠ '>') = '>' :: rest := by
  have inside : ∀ c ∈ name, decide (c ≠ '>') = true :=
    fun c member => decide_eq_true (ne_of_mem_of_not_mem member unclosed)
  rw [List.takeWhile_append_of_pos inside, List.dropWhile_append_of_pos inside]
  exact ⟨by simp, by simp⟩

theorem read?_open (s : List Char) :
    read? info ('<' :: s) = if info.hasNames && s.contains '>' then
      some (named (s.takeWhile (· ≠ '>')), (s.dropWhile (· ≠ '>')).drop 1) else none := rfl

/-- A reference is read exactly where one is written. -/
theorem read?_eq_some_iff :
    read? info s = some (r, rest) ↔ ∃ used, s = used ++ rest ∧ Spells info used rest r := by
  constructor
  · intro read
    rw [read?.eq_def] at read
    split at read
    · cases read
      exact ⟨_, rfl, .dollar⟩
    · cases read
      exact ⟨_, rfl, .whole⟩
    · cases read
      exact ⟨_, rfl, .before⟩
    · cases read
      exact ⟨_, rfl, .after⟩
    · next s =>
      split at read
      · next closed =>
        obtain ⟨hasNames, closed⟩ := Bool.and_eq_true_iff.mp closed
        obtain ⟨name, more, rfl, unclosed⟩ := List.eq_append_cons_of_mem (List.contains_iff_mem.mp closed)
        rw [(takeWhile_unclosed unclosed more).1, (takeWhile_unclosed unclosed more).2] at read
        cases read
        exact ⟨'<' :: name ++ ['>'], by simp, .named hasNames unclosed⟩
      · cases read
    · obtain ⟨⟨n, rest⟩, number, same⟩ := Option.map_eq_some_iff.mp read
      cases same
      exact number?_eq_some_iff.mp number
  · rintro ⟨used, rfl, spells⟩
    cases spells with
    | dollar | whole | before | after => rfl
    | two tens ones valid =>
      exact read?_of_number? (number?_eq_some_iff.mpr ⟨_, rfl, .two tens ones valid⟩)
    | one digit valid alone =>
      exact read?_of_number? (number?_eq_some_iff.mpr ⟨_, rfl, .one digit valid alone⟩)
    | @named name _ hasNames unclosed =>
      have whole : '<' :: name ++ ['>'] ++ rest = '<' :: (name ++ '>' :: rest) := by simp
      rw [whole, read?_open, (takeWhile_unclosed unclosed rest).1, (takeWhile_unclosed unclosed rest).2]
      simp [hasNames]

theorem Spells.unique {used' rest' : List Char} {r' : Reference} (spells : Spells info used rest r)
    (spells' : Spells info used' rest' r') (same : used ++ rest = used' ++ rest') :
    used = used' ∧ rest = rest' ∧ r = r' := by
  have read := read?_eq_some_iff.mpr ⟨used, rfl, spells⟩
  have read' := read?_eq_some_iff.mpr ⟨used', same, spells'⟩
  cases read.symm.trans read'
  exact ⟨List.append_cancel_right same, rfl, rfl⟩

/-! Whole replacements. -/

variable {parts parts' : List (List Char × Reference)}

theorem exists_tokenized (info : GroupInfo) (s : List Char) :
    ∃ parts, Tokenized info s parts ∧ parts.map Prod.snd = tokens info s := by
  fun_induction tokens info s with
  | case1 => exact ⟨[], .nil, rfl⟩
  | case2 s r rest read ih =>
    obtain ⟨parts, rest, same⟩ := ih
    obtain ⟨used, rfl, spells⟩ := read?_eq_some_iff.mp read
    exact ⟨_, .reference spells rest, by rw [List.map_cons, same]⟩
  | case3 s none ih =>
    obtain ⟨parts, rest, same⟩ := ih
    refine ⟨_, .dollar ?_ rest, by rw [List.map_cons, same]⟩
    intro used rest r split spells
    cases none.symm.trans (read?_eq_some_iff.mpr ⟨used, split, spells⟩)
  | case4 c s ordinary ih =>
    obtain ⟨parts, rest, same⟩ := ih
    exact ⟨_, .char ordinary rest, by rw [List.map_cons, same]⟩

-- Of a number with two digits the first one alone may be a group.
example : tokens ⟨1, false⟩ "$12$0".toList = [.group 1, .plain '2', .plain '$', .plain '0'] := by cbv

theorem Tokenized.unique (tokenized : Tokenized info s parts) (tokenized' : Tokenized info s parts') :
    parts = parts' := by
  induction tokenized generalizing parts' with
  | nil =>
    cases tokenized'
    rfl
  | char ordinary _ ih =>
    generalize whole : _ :: _ = s at tokenized'
    cases tokenized' with
    | nil => cases whole
    | char _ rest =>
      cases whole
      rw [ih rest]
    | reference | dollar =>
      injection whole with same
      exact absurd same ordinary
  | @reference used s r parts spells _ ih =>
    generalize whole : '$' :: used ++ s = s' at tokenized'
    cases tokenized' with
    | nil => cases whole
    | char ordinary _ =>
      injection whole with same
      exact absurd same.symm ordinary
    | @reference used' s' r' parts' spells' rest =>
      injection whole with _ split
      obtain ⟨rfl, rfl, rfl⟩ := spells.unique spells' split
      rw [ih rest]
    | dollar alone _ =>
      injection whole with _ split
      exact absurd spells (alone _ _ _ split.symm)
  | @dollar s parts alone _ ih =>
    generalize whole : '$' :: s = s' at tokenized'
    cases tokenized' with
    | nil => cases whole
    | char ordinary _ =>
      injection whole with same
      exact absurd same.symm ordinary
    | reference spells _ =>
      injection whole with _ split
      exact absurd spells (alone _ _ _ split)
    | dollar _ rest =>
      injection whole with _ split
      subst split
      rw [ih rest]

theorem Tokenized.joined (tokenized : Tokenized info s parts) : parts.flatMap Prod.fst = s := by
  induction tokenized with
  | nil => rfl
  | char _ _ ih | reference _ _ ih | dollar _ _ ih => rw [List.flatMap_cons, ih] <;> rfl

/-! What references stand for. -/

/-- The text that a reference stands for at a match. A group that took no part, and a name that the pattern
does not have, stand for nothing. -/
inductive Means (p : Pattern) {s : List Char} (m : Match s) : Reference → List Char → Prop where
  | plain {c : Char} : Means p m (.plain c) [c]
  | whole : Means p m .whole m.whole.text
  | before : Means p m .before m.whole.before
  | after : Means p m .after m.whole.after
  | groupZero : Means p m (.group 0) m.whole.text
  | group {n : Nat} {x : Span s} (took : m.groups[n]? = some (some x)) : Means p m (.group (n + 1)) x.text
  | absent {n : Nat} (out : ∀ x, m.groups[n]? ≠ some (some x)) : Means p m (.group (n + 1)) []
  | named {name text : List Char} {index : Nat} (known : p.names.lookup (String.ofList name) = some index)
      (means : Means p m (.group index) text) : Means p m (.named name) text
  | unknown {name : List Char} (unknown : p.names.lookup (String.ofList name) = none) :
      Means p m (.named name) []

variable {p : Pattern} {m : Match s}

theorem means_group_iff {n : Nat} {text : List Char} : Means p m (.group n) text ↔ text = m.groupText n := by
  cases n with
  | zero =>
    refine ⟨fun means => ?_, ?_⟩
    · cases means
      rfl
    · rintro rfl
      exact .groupZero
  | succ n =>
    rw [Match.groupText]
    constructor
    · intro means
      cases means with
      | group took => simp [took]
      | absent out =>
        cases here : m.groups[n]? with
        | none => rfl
        | some x =>
          cases x with
          | none => rfl
          | some x => exact absurd here (out x)
    · rintro rfl
      cases here : m.groups[n]? with
      | none => exact .absent (by simp [here])
      | some x =>
        cases x with
        | none => exact .absent (by simp [here])
        | some x => exact .group here

theorem means_iff {text : List Char} : Means p m r text ↔ text = r.expand p m := by
  constructor
  · intro means
    cases means with
    | plain | whole | before | after | groupZero => rfl
    | group took => exact means_group_iff.mp (.group (p := p) took)
    | absent out => exact means_group_iff.mp (.absent (p := p) out)
    | named known means =>
      rw [expand, known]
      exact means_group_iff.mp means
    | unknown unknown => rw [expand, unknown]
  · rintro rfl
    cases r with
    | plain c => exact .plain
    | whole => exact .whole
    | before => exact .before
    | after => exact .after
    | group n => exact means_group_iff.mpr rfl
    | named name =>
      rw [expand]
      split
      · next known => exact .named known (means_group_iff.mpr rfl)
      · next unknown => exact .unknown unknown

theorem forall₂_means_iff {refs : List Reference} {texts : List (List Char)} :
    List.Forall₂ (Means p m) refs texts ↔ texts = refs.map (·.expand p m) := by
  have meanings : Means p m = fun r text => r.expand p m = text := by
    funext r text
    exact propext (means_iff.trans eq_comm)
  rw [meanings, ← List.forall₂_map_left_iff, List.forall₂_eq_eq_eq, eq_comm]

/-- The text that a replacement comes to at a match: what its references stand for, one after the other. -/
def Expands (p : Pattern) {s : List Char} (m : Match s) (replacement text : List Char) : Prop :=
  ∃ parts texts, Tokenized p.info replacement parts ∧
    List.Forall₂ (Means p m) (parts.map Prod.snd) texts ∧ text = texts.flatten

theorem expands_iff {replacement text : List Char} :
    Expands p m replacement text ↔ text = p.expandAll m (tokens p.info replacement) := by
  obtain ⟨parts, tokenized, same⟩ := exists_tokenized p.info replacement
  rw [expandAll, List.flatMap_def]
  constructor
  · rintro ⟨parts', texts, tokenized', means, rfl⟩
    rw [tokenized'.unique tokenized, same, forall₂_means_iff] at means
    rw [means]
  · rintro rfl
    exact ⟨parts, _, tokenized, forall₂_means_iff.mpr (by rw [same]), rfl⟩

end Reference

end Scaffold.Pattern
