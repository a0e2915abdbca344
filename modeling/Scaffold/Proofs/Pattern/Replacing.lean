import Scaffold.Proofs.Pattern.Leftmost
import Scaffold.Proofs.Pattern.References
import Scaffold.Step.Edit

/-! Replacing the matches of a pattern in a text. The matches are the leftmost ones that do not overlap,
one after the other, and all the text between them is kept. -/
namespace Scaffold.Pattern

variable {p : Pattern} {s : List Char}

/-! Matches one after the other. -/

/-- A search from a place on gives a match, and it begins first. -/
structure Finds (p : Pattern) (s : List Char) (index : Nat) (m : Match s) : Prop where
  found : p.find? s index = some m
  leftmost : IsLeftmost p s index m

/-- The matches from `index` on that do not overlap. An empty match right behind a match, whose end is
`last`, is passed over. -/
inductive Successive (p : Pattern) (s : List Char) : Nat → Option Nat → List (Match s) → Prop where
  | done {index : Nat} {last : Option Nat} (none : ∀ k j, index ≤ k → ¬ p.program.MatchesAt s k j) :
      Successive p s index last []
  | skip {index : Nat} {last : Option Nat} {m : Match s} {ms : List (Match s)} (finds : Finds p s index m)
      (empty : m.whole.start = m.whole.stop) (behind : last = some m.whole.stop)
      (rest : Successive p s (index + 1) last ms) : Successive p s index last ms
  | next {index : Nat} {last : Option Nat} {m : Match s} {ms : List (Match s)} (finds : Finds p s index m)
      (counts : m.whole.start = m.whole.stop → last ≠ some m.whole.stop)
      (rest : Successive p s m.whole.stop (some m.whole.stop) ms) : Successive p s index last (m :: ms)

theorem find?_cases (framed : Framed p.program) (s : List Char) (index : Nat) :
    (∃ m, Finds p s index m) ∨
      p.find? s index = none ∧ ∀ k j, index ≤ k → ¬ p.program.MatchesAt s k j := by
  obtain ⟨some, none⟩ := find?_leftmost (s := s) framed index
  cases here : p.find? s index with
  | none => exact .inr ⟨rfl, none here⟩
  | some m => exact .inl ⟨m, here, some m here⟩

/-- The fuel counts each place twice, and once when a match has just ended there. -/
theorem successive_matchesFrom (framed : Framed p.program) {index fuel : Nat} {last : Option Nat}
    (past : ∀ l ∈ last, l ≤ index)
    (enough : 2 * (s.length + 1 - index) ≤ fuel + if last = some index then 1 else 0) :
    Successive p s index last (p.matchesFrom s index last fuel) := by
  induction fuel generalizing index last with
  | zero =>
    refine .done fun k j after matched => ?_
    have bounds := matched.bounds
    split at enough <;> omega
  | succ fuel ih =>
    rw [matchesFrom]
    obtain ⟨m, finds⟩ | ⟨none, absent⟩ := find?_cases framed s index
    · have after := finds.leftmost.after
      have ordered := m.whole.ordered
      have within := m.whole.within
      rw [finds.found]
      dsimp only
      by_cases passed : m.whole.start = m.whole.stop ∧ last = some m.whole.stop
      · obtain ⟨empty, behind⟩ := passed
        rw [if_pos (by simp [empty, behind])]
        -- The empty match is where the last one has ended, and that is here.
        have here : m.whole.stop ≤ index := past _ behind
        have same : m.whole.stop = index := by omega
        refine .skip finds empty behind (ih (fun l member => Nat.le_succ_of_le (past l member)) ?_)
        rw [behind, same] at enough ⊢
        rw [if_pos rfl] at enough
        rw [if_neg (by simp)]
        omega
      · rw [if_neg (by simpa using passed)]
        refine .next finds (fun empty behind => passed ⟨empty, behind⟩) (ih ?_ ?_)
        · rintro l same
          cases same
          exact Nat.le_refl _
        · rw [if_pos rfl]
          by_cases empty : m.whole.stop = index
          · have fresh : last ≠ some index := fun behind => passed ⟨by omega, by rw [behind, empty]⟩
            rw [if_neg fresh] at enough
            omega
          · split at enough <;> omega
    · rw [none]
      exact .done absent

theorem successive_findAll (framed : Framed p.program) (s : List Char) :
    Successive p s 0 none (p.findAll s) :=
  successive_matchesFrom framed nofun (by rw [if_neg nofun]; omega)

theorem Finds.unique {index : Nat} {m m' : Match s} (finds : Finds p s index m)
    (finds' : Finds p s index m') : m = m' := Option.some.inj (finds.found.symm.trans finds'.found)

theorem Successive.unique {index : Nat} {last : Option Nat} {ms ms' : List (Match s)}
    (successive : Successive p s index last ms) (successive' : Successive p s index last ms') : ms = ms' := by
  induction successive generalizing ms' with
  | done none =>
    cases successive' with
    | done => rfl
    | skip finds | next finds => exact absurd finds.leftmost.matched (none _ _ finds.leftmost.after)
  | skip finds empty behind _ ih =>
    cases successive' with
    | done none => exact absurd finds.leftmost.matched (none _ _ finds.leftmost.after)
    | skip _ _ _ rest => exact ih rest
    | next finds' counts =>
      obtain rfl := finds.unique finds'
      exact absurd behind (counts empty)
  | next finds counts _ ih =>
    cases successive' with
    | done none => exact absurd finds.leftmost.matched (none _ _ finds.leftmost.after)
    | skip finds' empty behind =>
      obtain rfl := finds.unique finds'
      exact absurd behind (counts empty)
    | next finds' _ rest =>
      obtain rfl := finds.unique finds'
      rw [ih rest]

/-! Replaced texts. -/

/-- What becomes of a text behind its front: a gap before each match is kept, and the match is replaced. -/
inductive Replaced {s : List Char} (new : Match s → List Char → Prop) :
    List Char → List (Match s) → List Char → Prop where
  | done {front rest : List Char} (whole : front ++ rest = s) : Replaced new front [] rest
  | next {front gap text out : List Char} {m : Match s} {ms : List (Match s)}
      (before : m.whole.before = front ++ gap) (replaces : new m text)
      (rest : Replaced new (m.whole.before ++ m.whole.text) ms out) :
      Replaced new front (m :: ms) (gap ++ text ++ out)

/-- Matches stand in order from a place on, and do not overlap. -/
def Ordered (index : Nat) : List (Match s) → Prop
  | [] => True
  | m :: ms => index ≤ m.whole.start ∧ Ordered m.whole.stop ms

theorem Successive.ordered {index : Nat} {last : Option Nat} {ms : List (Match s)}
    (successive : Successive p s index last ms) : Ordered index ms := by
  induction successive with
  | done => trivial
  | @skip index last m ms _ _ _ _ ih =>
    cases ms with
    | nil => trivial
    | cons m ms => exact ⟨Nat.le_of_succ_le ih.1, ih.2⟩
  | next finds _ _ ih => exact ⟨finds.leftmost.after, ih⟩

theorem Span.before_append_text (x : Span s) : x.before ++ x.text = s.take x.stop := by
  rw [before, text, ← List.take_add, Nat.add_sub_cancel' x.ordered]

theorem replaced_substitute (new : Match s → List Char) {index : Nat} {ms : List (Match s)}
    (ordered : Ordered index ms) :
    Replaced (fun m text => text = new m) (s.take index) ms (substitute new index ms) := by
  induction ms generalizing index with
  | nil => exact .done (List.take_append_drop index s)
  | cons m ms ih =>
    obtain ⟨after, ordered⟩ := ordered
    refine .next ?_ rfl ?_
    · rw [Span.before, ← List.take_add, Nat.add_sub_cancel' after]
    · rw [Span.before_append_text]
      exact ih ordered

theorem Replaced.unique {new : Match s → List Char → Prop} {front out out' : List Char}
    {ms : List (Match s)} (functional : ∀ m text text', new m text → new m text' → text = text')
    (replaced : Replaced new front ms out) (replaced' : Replaced new front ms out') : out = out' := by
  induction replaced generalizing out' with
  | done whole =>
    cases replaced' with
    | done whole' => exact List.append_cancel_left (whole.trans whole'.symm)
  | next before replaces _ ih =>
    cases replaced' with
    | next before' replaces' rest =>
      obtain rfl := List.append_cancel_left (before.symm.trans before')
      rw [functional _ _ _ replaces replaces', ih rest]

/-! Whole texts. -/

/-- A front of a text ends between two characters, and not inside of one: its size in bytes is a position
in the text. -/
def IsCut (text : String) (front : List Char) : Prop :=
  String.Pos.Raw.IsValid text ⟨(String.ofList front).utf8ByteSize⟩

theorem isCut_of_append {text : String} {front back : List Char} (whole : text.toList = front ++ back) :
    IsCut text front := by
  refine String.Pos.Raw.isValid_iff_exists_append.mpr ⟨String.ofList front, String.ofList back, ?_, rfl⟩
  rw [← String.ofList_append, ← whole, String.ofList_toList]

theorem framed_of_parse {text : String} (read : parse text = .ok p) : Framed p.program := by
  obtain ⟨e, lacks, program, -⟩ := exists_expr_of_parse read
  rw [program]
  exact framed_ofExpr lacks

/-- The text with its matches replaced, told by what the matches and the references are. -/
theorem replaceAll_eq_iff (framed : Framed p.program) {replacement text out : String} :
    p.replaceAll replacement text = out ↔ ∃ ms, Successive p text.toList 0 none ms ∧
      Replaced (Reference.Expands p · replacement.toList) [] ms out.toList := by
  have successive := successive_findAll framed text.toList
  have replaced := replaced_substitute
    (fun m => p.expandAll m (Reference.tokens p.info replacement.toList)) successive.ordered
  have meanings : (Reference.Expands p · replacement.toList) = fun (m : Match text.toList) text =>
      text = p.expandAll m (Reference.tokens p.info replacement.toList) := by
    funext m text
    exact propext Reference.expands_iff
  rw [meanings]
  constructor
  · rintro rfl
    rw [replaceAll, String.toList_ofList]
    exact ⟨_, successive, replaced⟩
  · rintro ⟨ms, successive', replaced'⟩
    obtain rfl := successive.unique successive'
    have same := replaced.unique (fun m text text' first second => first.trans second.symm) replaced'
    rw [replaceAll, same, String.ofList_toList]

end Scaffold.Pattern

namespace Scaffold.Edit

open Pattern Pattern.Reference

/-- Replacing fails exactly when the pattern cannot be read. Otherwise the replacement is cut into references
in one way, between characters, and what it comes to at a match is what they stand for. The content that
is left has each of the leftmost matches that do not overlap replaced, and all the text between them. -/
theorem findReplace_outcome (existing : String) (change : FindReplace) :
    (∀ f, parse change.find = .error f →
      findReplace existing change = .error (.invalidPattern change.find f)) ∧
    ∀ p, parse change.find = .ok p →
      (∃ parts, (∀ parts', Tokenized p.info change.replacement.toList parts' ↔ parts' = parts) ∧
        ∀ front back, parts = front ++ back → IsCut change.replacement (front.flatMap Prod.fst)) ∧
      (∀ x : Span existing.toList, IsCut existing x.before ∧ IsCut existing (x.before ++ x.text)) ∧
      (∀ (m : Match existing.toList) text, Expands p m change.replacement.toList text ↔
        text = p.expandAll m (tokens p.info change.replacement.toList)) ∧
      (∃ out, findReplace existing change = .ok out) ∧
      ∀ out, findReplace existing change = .ok out ↔ ∃ ms, Successive p existing.toList 0 none ms ∧
        Replaced (Expands p · change.replacement.toList) [] ms out.toList := by
  refine ⟨fun f failed => ?_, fun p read => ?_⟩
  · rw [findReplace, failed]
    rfl
  have done : findReplace existing change = .ok (p.replaceAll change.replacement existing) := by
    rw [findReplace, read]
    rfl
  obtain ⟨parts, tokenized, -⟩ := exists_tokenized p.info change.replacement.toList
  refine ⟨⟨parts, fun parts' => ⟨fun tokenized' => tokenized'.unique tokenized, ?_⟩, ?_⟩, ?_, ?_, ?_, ?_⟩
  · rintro rfl
    exact tokenized
  · rintro front back rfl
    have joined := tokenized.joined
    rw [List.flatMap_append] at joined
    exact isCut_of_append joined.symm
  · intro x
    have whole := x.before_text_after
    exact ⟨isCut_of_append (whole.symm.trans (List.append_assoc ..)), isCut_of_append whole.symm⟩
  · exact fun m text => expands_iff
  · exact ⟨_, done⟩
  · intro out
    rw [done, Except.ok.injEq]
    exact replaceAll_eq_iff (framed_of_parse read)

end Scaffold.Edit
