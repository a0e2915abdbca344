import Scaffold.Proofs.Pattern.Replacing

/-! Replacements that are meant literally. In a text whose dollar signs are doubled nothing refers to the
match, so that the text stands for itself wherever it is put. -/
namespace Scaffold.Pattern

variable {p : Pattern} {s : List Char}

namespace Reference

/-- A character as it is written in a replacement that comes to it. -/
def spelled (c : Char) : List Char := if c = '$' then ['$', '$'] else [c]

/-- A text as it is written in a replacement that comes to it: each dollar sign is doubled. -/
def literal (s : List Char) : List Char := s.flatMap spelled

variable {info : GroupInfo} {m : Match s}

theorem Tokenized.tokens_eq {r : List Char} {parts : List (List Char × Reference)}
    (tokenized : Tokenized info r parts) : tokens info r = parts.map Prod.snd := by
  obtain ⟨parts', tokenized', same⟩ := exists_tokenized info r
  rw [← same, tokenized.unique tokenized']

theorem tokenized_literal (info : GroupInfo) (r : List Char) :
    Tokenized info (literal r) (r.map fun c => (spelled c, .plain c)) := by
  induction r with
  | nil => exact .nil
  | cons c r ih =>
    rw [literal, List.flatMap_cons, List.map_cons, spelled]
    by_cases sign : c = '$'
    · subst sign
      exact .reference .dollar ih
    · rw [if_neg sign]
      exact .char sign ih

theorem tokens_literal (r : List Char) : tokens info (literal r) = r.map .plain := by
  rw [(tokenized_literal info r).tokens_eq, List.map_map]
  rfl

-- Without the doubled signs each of these would be a reference.
example : tokens ⟨1, true⟩ (literal "$1$&$<y>$$".toList) = "$1$&$<y>$$".toList.map .plain := by decide +kernel

theorem expands_literal {r text : List Char} : Expands p m (literal r) text ↔ text = r := by
  have plain : p.expandAll m (r.map .plain) = r := by
    rw [expandAll, List.flatMap_map]
    exact List.flatMap_singleton' r
  rw [expands_iff, tokens_literal, plain]

theorem expands_whole {text : List Char} : Expands p m ['$', '&'] text ↔ text = m.whole.text := by
  have tokenized : Tokenized p.info ['$', '&'] [(['$', '&'], .whole)] := .reference .whole .nil
  rw [expands_iff, tokenized.tokens_eq]
  simp [expandAll, expand]

end Reference

theorem Replaced.mono {new new' : Match s → List Char → Prop} {front out : List Char} {ms : List (Match s)}
    (replaced : Replaced new front ms out) (wider : ∀ m text, new m text → new' m text) :
    Replaced new' front ms out := by
  induction replaced with
  | done whole => exact .done whole
  | next before replaces _ ih => exact .next before (wider _ _ replaces) ih

/-- Matches that stand for themselves leave the text as it is. -/
theorem Replaced.eq_of_text {front out : List Char} {ms : List (Match s)}
    (replaced : Replaced (fun m text => text = m.whole.text) front ms out) : front ++ out = s := by
  induction replaced with
  | done whole => exact whole
  | @next front gap text out m ms before same _ ih =>
    rw [← ih, before, same]
    simp only [List.append_assoc]

theorem Replaced.eq_of_nil {new : Match s → List Char → Prop} {front out : List Char}
    (replaced : Replaced new front [] out) : front ++ out = s := by
  cases replaced with
  | done whole => exact whole

theorem Successive.eq_nil {ms : List (Match s)} {index : Nat} {last : Option Nat}
    (successive : Successive p s index last ms) (absent : ∀ k j, ¬ p.program.MatchesAt s k j) : ms = [] :=
  successive.unique (.done fun k j _ => absent k j)

end Scaffold.Pattern

namespace Scaffold.Edit

open Pattern Pattern.Reference

variable {p : Pattern} {find : String}

theorem findReplace_eq_ok_iff (read : parse find = .ok p) {existing replacement out : String} :
    findReplace existing ⟨find, replacement⟩ = .ok out ↔ ∃ ms, Successive p existing.toList 0 none ms ∧
      Replaced (Expands p · replacement.toList) [] ms out.toList := by
  have done : findReplace existing ⟨find, replacement⟩ = .ok (p.replaceAll replacement existing) := by
    rw [findReplace, read]
    rfl
  rw [done, Except.ok.injEq]
  exact replaceAll_eq_iff (framed_of_parse read)

/-- A replacement whose dollar signs are doubled is put for each of the matches just as it is without the
doubling. The match put for itself leaves the text as it is, and so does every replacement when there is
no match. -/
theorem findReplace_literal (read : parse find = .ok p) (existing : String) :
    (∀ r : String, ∃ out, findReplace existing ⟨find, String.ofList (literal r.toList)⟩ = .ok out ∧
      ∃ ms, Successive p existing.toList 0 none ms ∧
        Replaced (fun _ text => text = r.toList) [] ms out.toList) ∧
    findReplace existing ⟨find, "$&"⟩ = .ok existing ∧
    ((∀ k j, ¬ p.program.MatchesAt existing.toList k j) →
      ∀ r, findReplace existing ⟨find, r⟩ = .ok existing) := by
  have outcome : ∀ r, ∃ out, findReplace existing ⟨find, r⟩ = .ok out ∧
      ∃ ms, Successive p existing.toList 0 none ms ∧ Replaced (Expands p · r.toList) [] ms out.toList := by
    intro r
    have done : ∃ out, findReplace existing ⟨find, r⟩ = .ok out := by
      rw [findReplace, read]
      exact ⟨_, rfl⟩
    obtain ⟨out, done⟩ := done
    exact ⟨out, done, (findReplace_eq_ok_iff read).mp done⟩
  refine ⟨fun r => ?_, ?_, fun absent r => ?_⟩
  · obtain ⟨out, done, ms, successive, replaced⟩ := outcome (String.ofList (literal r.toList))
    rw [String.toList_ofList] at replaced
    exact ⟨out, done, ms, successive, replaced.mono fun m text => expands_literal.mp⟩
  · obtain ⟨out, done, ms, -, replaced⟩ := outcome "$&"
    have same := (replaced.mono fun m text => expands_whole.mp).eq_of_text
    rw [done, ← String.toList_inj.mp same]
  · obtain ⟨out, done, ms, successive, replaced⟩ := outcome r
    obtain rfl := successive.eq_nil absent
    rw [done, ← String.toList_inj.mp replaced.eq_of_nil]

theorem findReplace_literal_at_groups : ∃ p, parse "(?P<_>o)|(b)" = .ok p ∧
    (∃ out, findReplace "foo bar" ⟨"(?P<_>o)|(b)", "$$<_>$$1"⟩ = .ok out ∧
      ∃ ms, Successive p "foo bar".toList 0 none ms ∧
        Replaced (fun _ text => text = "$<_>$1".toList) [] ms out.toList) ∧
    findReplace "foo bar" ⟨"(?P<_>o)|(b)", "$&"⟩ = .ok "foo bar" ∧
    findReplace "xyz" ⟨"(?P<_>o)|(b)", "$1"⟩ = .ok "xyz" := by
  let e : Expr := .alt (.group 1 (.char (.single 111))) (.group 2 (.char (.single 98)))
  have run : Read.pattern.run ⟨"(?P<_>o)|(b)".toList, {}, 0, []⟩ = .ok (e, ⟨[], {}, 2, [("_", 1)]⟩) := by
    decide +kernel
  have layout : Layout.ofExpr e = .alt (.group (.text 1)) (.group (.text 1)) := by
    have texts : e.branches.mapM Expr.text? = none := by decide +kernel
    dsimp only [e] at texts ⊢
    simp only [Layout.ofExpr, Layout.ofRest, texts]
    rfl
  have fits : e.fits = true := by
    refine Expr.fits_iff.mpr ⟨?_, ?_⟩
    · simp only [roomFor, layout, addLayout, addRest]
      decide +kernel
    · simp only [roomFor, layout, addLayout, addRest]
      decide +kernel
  have read : parse "(?P<_>o)|(b)" = .ok ⟨.ofExpr e, 2, [("_", 1)]⟩ :=
    parse_eq_ok_iff.mpr ⟨e, _, run, fits, rfl⟩
  have absent : ∀ k j, ¬ (Program.ofExpr e).MatchesAt "xyz".toList k j := by
    obtain ⟨-, none⟩ := find?_leftmost (s := "xyz".toList) (framed_of_parse read) 0
    exact fun k j => none (by decide +kernel) k j (Nat.zero_le k)
  obtain ⟨literal, text, -⟩ := findReplace_literal read "foo bar"
  exact ⟨_, read, literal "$<_>$1", text, (findReplace_literal read "xyz").2.2 absent "$1"⟩

end Scaffold.Edit
