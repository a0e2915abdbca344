import Mathlib.Data.List.Basic
import Scaffold.Pattern.Match

/-! The groups of a pattern are numbered from one: neither reading a pattern nor bringing it into its
simplest form makes a group of another number. -/
namespace Scaffold.Pattern

/-! Simplest forms. -/

namespace Expr

/-- No group has the number. -/
def Lacks (index : Nat) (e : Expr) : Prop := e.hasGroup index = false

variable {index : Nat}

@[simp] theorem lacks_empty : Lacks index empty := rfl

@[simp] theorem lacks_char {set : Text.Ranges} : Lacks index (char set) := rfl

@[simp] theorem lacks_seq {e f : Expr} : Lacks index (seq e f) ↔ Lacks index e ∧ Lacks index f := by
  simp [Lacks, hasGroup]

@[simp] theorem lacks_alt {e f : Expr} : Lacks index (alt e f) ↔ Lacks index e ∧ Lacks index f := by
  simp [Lacks, hasGroup]

@[simp] theorem lacks_rep {min : Nat} {max : Option Nat} {greedy : Bool} {e : Expr} :
    Lacks index (rep min max greedy e) ↔ Lacks index e := Iff.rfl

@[simp] theorem lacks_group {i : Nat} {e : Expr} :
    Lacks index (group i e) ↔ i ≠ index ∧ Lacks index e := by
  simp [Lacks, hasGroup]

theorem Lacks.chain {es : List Expr} (each : ∀ e ∈ es, Lacks index e) : Lacks index (chain es) := by
  fun_induction Expr.chain es with
  | case1 => exact lacks_empty
  | case2 e => exact each e (.head _)
  | case3 e es _ ih =>
    exact lacks_seq.mpr ⟨each e (.head _), ih fun f member => each f (.tail _ member)⟩

theorem Lacks.chainAlternatives {es : List Expr} (each : ∀ e ∈ es, Lacks index e) :
    Lacks index (chainAlternatives es) := by
  fun_induction Expr.chainAlternatives es with
  | case1 => exact lacks_char
  | case2 e => exact each e (.head _)
  | case3 e es _ ih =>
    exact lacks_alt.mpr ⟨each e (.head _), ih fun f member => each f (.tail _ member)⟩

theorem Lacks.ofList {es : List Expr} (each : ∀ e ∈ es, Lacks index e) : Lacks index (ofList es) :=
  .chain fun e member => each e (List.mem_of_mem_filter member)

def PartLacks (index : Nat) : Part → Prop
  | .text _ => True
  | .other e => Lacks index e

theorem PartLacks.joinParts {ps qs : List Part} (first : ∀ p ∈ ps, PartLacks index p)
    (second : ∀ q ∈ qs, PartLacks index q) : ∀ p ∈ joinParts ps qs, PartLacks index p := by
  fun_induction Expr.joinParts ps qs with
  | case1 => exact second
  | case2 cs ds qs =>
    intro p member
    rcases List.mem_cons.mp member with rfl | member
    · trivial
    · exact second p (.tail _ member)
  | case3 p ps qs _ ih =>
    intro q member
    rcases List.mem_cons.mp member with rfl | member
    · exact first q (.head _)
    · exact ih (fun q member => first q (.tail _ member)) second q member

theorem Lacks.parts {e : Expr} (lacks : Lacks index e) : ∀ p ∈ e.parts, PartLacks index p := by
  have alone {e : Expr} (lacks : Lacks index e) : ∀ p ∈ [Part.other e], PartLacks index p := by
    intro p member
    obtain rfl := List.mem_singleton.mp member
    exact lacks
  induction e with
  | empty => exact nofun
  | char set =>
    intro p member
    rw [Expr.parts] at member
    split at member
    · obtain rfl := List.mem_singleton.mp member
      trivial
    · exact alone lacks p member
  | seq e f ih ih' =>
    obtain ⟨first, second⟩ := lacks_seq.mp lacks
    exact .joinParts (ih first) (ih' second)
  | look | alt | rep | group => exact alone lacks

theorem Lacks.ofParts {ps : List Part} (each : ∀ p ∈ ps, PartLacks index p) : Lacks index (ofParts ps) := by
  refine .ofList fun e member => ?_
  obtain ⟨p, inside, member⟩ := List.mem_flatMap.mp member
  cases p with
  | text cs =>
    obtain ⟨c, -, rfl⟩ := List.mem_map.mp member
    exact lacks_char
  | other f =>
    obtain rfl := List.mem_singleton.mp member
    exact each _ inside

theorem Lacks.branches {e : Expr} (lacks : Lacks index e) : ∀ f ∈ e.branches, Lacks index f := by
  fun_induction Expr.branches e with
  | case1 e f ih =>
    obtain ⟨first, second⟩ := lacks_alt.mp lacks
    intro g member
    rcases List.mem_cons.mp member with rfl | member
    · exact first
    · exact ih second g member
  | case2 e =>
    intro f member
    obtain rfl := List.mem_singleton.mp member
    exact lacks

theorem mem_of_mem_commonParts {p : Part} {ps qs : List Part} (member : p ∈ commonParts ps qs) :
    p ∈ ps := by
  fun_induction commonParts ps qs with
  | case1 q ps qs ih =>
    rcases List.mem_cons.mp member with rfl | member
    · exact .head _
    · exact .tail _ (ih member)
  | case2 | case3 => cases member

theorem mem_of_mem_foldl_commonParts {p : Part} {ps : List Part} {more : List (List Part)}
    (member : p ∈ more.foldl commonParts ps) : p ∈ ps := by
  induction more generalizing ps with
  | nil => exact member
  | cons qs more ih => exact mem_of_mem_commonParts (ih member)

theorem Lacks.commonStart? {es rest : List Expr} {common : List Part} (each : ∀ e ∈ es, Lacks index e)
    (found : commonStart? es = some (common, rest)) :
    (∀ p ∈ common, PartLacks index p) ∧ ∀ e ∈ rest, Lacks index e := by
  rw [Expr.commonStart?] at found
  split at found
  · cases found
  · next first more shape =>
    have all : ∀ ps ∈ first :: more, ∀ p ∈ ps, PartLacks index p := by
      intro ps member
      rw [← shape] at member
      obtain ⟨e, inside, rfl⟩ := List.mem_map.mp member
      exact (each e inside).parts
    dsimp only at found
    split at found
    · cases found
    · cases found
      refine ⟨fun p member => all first (.head _) p (mem_of_mem_foldl_commonParts member), ?_⟩
      intro e member
      obtain ⟨ps, inside, rfl⟩ := List.mem_map.mp member
      exact .ofParts fun p member => all ps inside p (List.mem_of_mem_drop member)

theorem Lacks.alternation {fuel : Nat} {es : List Expr} (each : ∀ e ∈ es, Lacks index e) :
    Lacks index (alternation fuel es) := by
  induction fuel generalizing es with
  | zero => exact .chainAlternatives each
  | succ fuel ih =>
    have flat : ∀ e ∈ es.flatMap Expr.branches, Lacks index e := by
      intro f member
      obtain ⟨e, inside, member⟩ := List.mem_flatMap.mp member
      exact (each e inside).branches f member
    rw [Expr.alternation]
    split
    · exact lacks_char
    · next e shape => exact flat e (by rw [shape]; exact .head _)
    · split
      · exact lacks_char
      · split
        · next common rest found =>
          obtain ⟨begins, rest⟩ := Lacks.commonStart? flat found
          refine .ofParts fun p member => ?_
          rcases List.mem_append.mp member with member | member
          · exact begins p member
          · obtain rfl := List.mem_singleton.mp member
            exact ih rest
        · exact .chainAlternatives flat

theorem Lacks.ofAlternatives {es : List Expr} (each : ∀ e ∈ es, Lacks index e) :
    Lacks index (ofAlternatives es) := .alternation each

theorem Lacks.ofRepetition {min : Nat} {max : Option Nat} {greedy : Bool} {e : Expr} (lacks : Lacks index e) :
    Lacks index (ofRepetition min max greedy e) := by
  rw [Expr.ofRepetition]
  generalize (if e.isEmptyOnly = true then _ else (min, max) : Nat × Option Nat) = bounds
  obtain ⟨min, max⟩ := bounds
  dsimp only
  split
  · exact lacks_empty
  · split
    · exact lacks
    · exact lacks_rep.mpr lacks

end Expr

/-! Reading. -/

namespace Read

/-- All that a reader can give. -/
def Yields {α : Type} (P : α → Prop) (x : Read α) : Prop :=
  ∀ r a r', x r = .ok (a, r') → P a

namespace Yields

variable {α β : Type} {P : α → Prop} {Q : β → Prop}

theorem pure {a : α} (holds : P a) : Yields P (pure a : Read α) := by
  intro r a' r' read
  cases read
  exact holds

theorem throw (f : Fault) : Yields P (throw f : Read α) := by
  intro r a r' read
  have failed : (MonadExcept.throw f : Read α) r = .error f := rfl
  cases failed.symm.trans read

theorem bind {x : Read α} {next : α → Read β} (first : Yields P x) (more : ∀ a, P a → Yields Q (next a)) :
    Yields Q (x >>= next) := by
  intro r b r' read
  cases result : x r with
  | error e =>
    have failed : (x >>= next) r = .error e := by
      show (x r >>= fun (a, r') => next a r') = _
      rw [result]
      rfl
    cases failed.symm.trans read
  | ok given =>
    obtain ⟨a, r₁⟩ := given
    have done : (x >>= next) r = next a r₁ := by
      show (x r >>= fun (a, r') => next a r') = _
      rw [result]
      rfl
    exact more a (first r a r₁ result) r₁ b r' (done.symm.trans read)

theorem skip {x : Read α} {next : α → Read β} (more : ∀ a, Yields Q (next a)) : Yields Q (x >>= next) :=
  bind (P := fun _ => True) (fun _ _ _ _ => trivial) fun a _ => more a

theorem throw_bind (f : Fault) (next : α → Read β) : Yields Q (MonadExcept.throw f >>= next) :=
  bind (P := fun _ => False) (throw f) fun _ impossible => impossible.elim

end Yields

/-- A part of a pattern without a group of the number zero. -/
def Numbered (e : Nested) : Prop := e.expr.Lacks 0

theorem yields_newGroup : Yields (1 ≤ ·) newGroup :=
  .skip fun r => .skip fun _ => .pure (Nat.le_add_left 1 r.groups)

def OpensNumbered : Opening → Prop
  | .flags => True
  | .group index => ∀ i ∈ index, 1 ≤ i

theorem yields_opening : Yields OpensNumbered opening := by
  have named (s : List Char) : Yields OpensNumbered (do
      let index ← newGroup
      groupName index s
      return .group (some index)) := by
    refine .bind yields_newGroup fun index numbered => .skip fun _ => .pure ?_
    intro i member
    cases member
    exact numbered
  refine .skip fun _ => .skip fun s => ?_
  dsimp only
  split
  · exact .throw_bind _ _
  split
  · exact named _
  · exact named _
  · refine .skip fun _ => .skip fun _ => ?_
    split
    · split
      · exact .throw_bind _ _
      · exact .skip fun _ => .pure trivial
    · exact .skip fun _ => .pure nofun
  · refine .bind yields_newGroup fun index numbered => .pure ?_
    intro i member
    cases member
    exact numbered

theorem yields_nested {depth : Nat} {e : Expr} (lacks : e.Lacks 0) : Yields Numbered (nested depth e) := by
  rw [nested]
  split
  · exact .throw _
  · exact .pure lacks

theorem lacks_ofChar (flags : Flags) (c : Char) : (ofChar flags c).Lacks 0 := by
  rw [ofChar]
  split <;> rfl

theorem yields_ofEscape (flags : Flags) (e : Escape) : Yields (Expr.Lacks 0) (ofEscape flags e) := by
  cases e with
  | char c => exact .pure (lacks_ofChar flags c)
  | byte n =>
    rw [ofEscape]
    split
    · exact .pure (lacks_ofChar flags _)
    · exact .throw _
  | set r => exact .pure rfl
  | look l => exact .pure rfl

theorem yields_dot (flags : Flags) : Yields (Expr.Lacks 0) (dot flags) := by
  rw [dot]
  split
  · exact .throw _
  · exact .pure rfl

theorem yields_repeated {fuel : Nat} {e : Nested} (numbered : Numbered e) :
    Yields Numbered (repeated fuel e) := by
  induction fuel generalizing e with
  | zero => exact .pure numbered
  | succ fuel ih =>
    rw [repeated]
    refine .skip fun o => ?_
    split
    · exact .pure numbered
    · have again (greedy : Bool) (min : Nat) (max : Option Nat) : Yields Numbered (do
          repeated fuel (← nested (e.depth + 1) (.ofRepetition min max greedy e.expr))) :=
        .bind (yields_nested (.ofRepetition numbered)) fun e numbered => ih numbered
      refine .skip fun flags => .skip fun s => ?_
      dsimp only
      split
      · exact .skip fun _ => .skip fun _ => again _ _ _
      · exact .skip fun _ => again _ _ _

theorem yields_combine {ofList : List Expr → Expr} {parts : List Nested}
    (keeps : ∀ es, (∀ e ∈ es, Expr.Lacks 0 e) → (ofList es).Lacks 0) (each : ∀ e ∈ parts, Numbered e) :
    Yields Numbered (combine ofList parts) := by
  rw [combine.eq_def]
  split
  · exact .pure (each _ (.head _))
  · refine yields_nested (keeps _ fun e member => ?_)
    obtain ⟨part, inside, rfl⟩ := List.mem_map.mp member
    exact each part inside

theorem yields_parts (fuel : Nat) :
    Yields (∀ e ∈ ·, Numbered e) (alternatives fuel) ∧ Yields (∀ e ∈ ·, Numbered e) (sequence fuel) ∧
      ∀ c, Yields (∀ e ∈ ·, Numbered e) (item fuel c) := by
  induction fuel with
  | zero =>
    refine ⟨?_, ?_, fun c => ?_⟩
    · rw [alternatives]; exact .throw _
    · rw [sequence]; exact .throw _
    · rw [item]; exact .throw _
  | succ fuel ih =>
    obtain ⟨alternatives_numbered, sequence_numbered, item_numbered⟩ := ih
    have cons {e : Nested} {es : List Nested} (first : Numbered e) (rest : ∀ f ∈ es, Numbered f) :
        ∀ f ∈ e :: es, Numbered f := List.forall_mem_cons.mpr ⟨first, rest⟩
    refine ⟨?_, ?_, fun c => ?_⟩
    · rw [alternatives]
      refine .bind sequence_numbered fun es numbered => ?_
      refine .bind (yields_combine (fun _ => .ofList) numbered) fun first numbered => .skip fun s => ?_
      split
      · exact .skip fun _ => .bind alternatives_numbered fun es rest => .pure (cons numbered rest)
      · exact .pure (cons numbered nofun)
    · rw [sequence]
      refine .skip fun _ => .skip fun s => ?_
      split
      · exact .pure nofun
      · split
        · exact .pure nofun
        split
        · exact .throw _
        refine .skip fun _ => .bind (item_numbered _) fun e numbered => ?_
        split
        · exact .bind (yields_repeated (numbered _ rfl)) fun e numbered =>
            .bind sequence_numbered fun es rest => .pure (cons numbered rest)
        · exact .bind sequence_numbered fun es rest => .pure (cons Expr.lacks_empty rest)
    · have single {e : Nested} (numbered : Numbered e) : ∀ f ∈ some e, Numbered f := by
        intro f member
        cases member
        exact numbered
      rw [item]
      refine .skip fun flags => ?_
      split
      · refine .bind yields_opening fun o numbered => ?_
        split
        · exact .pure nofun
        · refine .bind alternatives_numbered fun es each => ?_
          refine .bind (yields_combine (fun _ => .ofAlternatives) each) fun e inner => .skip fun s => ?_
          split
          · refine .skip fun _ => .bind (yields_nested ?_) fun e numbered => .pure (single numbered)
            split
            · exact Expr.lacks_group.mpr ⟨Nat.ne_of_gt (numbered _ rfl), inner⟩
            · exact inner
          · exact .throw _
      · refine .skip fun given => .bind (yields_nested rfl) fun e numbered => .pure (single numbered)
      · exact .skip fun _ => .bind (yields_ofEscape _ _) fun e numbered => .pure (single numbered)
      · exact .bind (yields_dot _) fun e numbered => .pure (single numbered)
      · exact .pure (single rfl)
      · exact .pure (single rfl)
      · exact .pure (single (lacks_ofChar _ _))

theorem yields_pattern : Yields (Expr.Lacks 0) pattern := by
  refine .skip fun s => .bind (yields_parts _).1 fun es each => ?_
  refine .bind (yields_combine (fun _ => .ofAlternatives) each) fun e numbered => .skip fun s => ?_
  split
  · exact .pure numbered
  · exact .throw _

end Read

theorem Expr.fits_iff {e : Expr} : e.fits = true ↔
    (roomFor ⟨false, true⟩ e).bytes ≤ 10485760 ∧ (roomFor ⟨true, false⟩ e).bytes ≤ 10485760 := by
  have limit : Room.limit = 10485760 := rfl
  rw [← limit]
  simp [Expr.fits, Room.isFull]

/-- A pattern is read if an expression is, and its states have room enough. -/
theorem parse_eq_ok_iff {text : String} {p : Pattern} :
    parse text = .ok p ↔ ∃ e reading, Read.pattern.run ⟨text.toList, {}, 0, []⟩ = .ok (e, reading) ∧
      e.fits = true ∧
      p = ⟨.ofExpr e, e.groupCount, reading.names.filter fun (_, index) => e.hasGroup index⟩ := by
  rw [parse]
  cases result : Read.pattern.run ⟨text.toList, {}, 0, []⟩ with
  | error f => exact ⟨nofun, nofun⟩
  | ok given =>
    obtain ⟨e, reading⟩ := given
    simp only [bind, Except.bind]
    cases fits : e.fits with
    | false =>
      refine ⟨nofun, ?_⟩
      rintro ⟨_, _, same, fits', -⟩
      cases same
      rw [fits] at fits'
      cases fits'
    | true =>
      constructor
      · intro read
        cases read
        exact ⟨e, reading, rfl, fits, rfl⟩
      · rintro ⟨_, _, same, -, rfl⟩
        cases same
        rfl

/-- A pattern that is read is a program for an expression whose groups are numbered from one. -/
theorem exists_expr_of_parse {text : String} {p : Pattern} (read : parse text = .ok p) :
    ∃ e : Expr, e.Lacks 0 ∧ p.program = .ofExpr e ∧ p.groupCount = e.groupCount := by
  obtain ⟨e, reading, result, -, rfl⟩ := parse_eq_ok_iff.mp read
  exact ⟨e, Read.yields_pattern _ _ _ result, rfl, rfl⟩

end Scaffold.Pattern
