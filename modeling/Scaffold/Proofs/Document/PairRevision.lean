import Scaffold.Proofs.Document.Revision

/-! Values of several forms, of which a text or a record of two texts is one. They are looked through as a
whole before their form is known. -/
namespace Scaffold.Document.Respects

/-- What is read freely is read as its form. -/
theorem carries_oneOf {type : String} {form? : Setting → Tree → Option α} {s : Setting} {limit : Nat}
    {t t' : Tree} (bare : t.IsBare) (bare' : t'.IsBare)
    (levels : Levels t.nesting s.room (checkReadable s s.room t))
    (readable : t.nesting ≤ s.room → ∀ a, form? s t = some a →
      Gives limit (checkReadable (s.limited limit) s.room t') ⟨⟩ ∧
        form? (s.limited limit) t' = some a) :
    Carries limit (Reader.oneOf type form? s t) (Reader.oneOf type form? (s.limited limit) t') := by
  intro n a m done
  obtain ⟨u, k, looked, done⟩ := run_bind_eq_ok done
  have fits := (levels n).symm.trans looked
  by_cases room : t.nesting ≤ s.room
  · rw [if_pos room] at fits
    cases fits
    rw [s.target_of_isBare bare] at done
    cases form : form? s t with
    | none => rw [form] at done; cases done
    | some b =>
      rw [form] at done
      cases done
      obtain ⟨gives, form'⟩ := readable room a form
      refine ⟨rfl, gives.bind ?_⟩
      rw [(s.limited limit).target_of_isBare bare', form']
      exact .pure a
  · rw [if_neg room] at fits
    cases fits

theorem oneOf_leaf {type : String} {form? : Setting → Tree → Option α}
    (atoms : ∀ s limit a, form? (Setting.limited s limit) (.atom a) = form? s (.atom a))
    (lists : ∀ s items, form? s (.list items) = none)
    (records : ∀ s fields, form? s (.ofFields fields) = none) : Respects (.oneOf type form?) .leaf := by
  have none_of {s : Setting} {limit : Nat} {t : Tree} (y : Reading α) (json : t.IsJson)
      (no : form? s t = none) : Carries limit (Reader.oneOf type form? s t) y := by
    intro n a m done
    obtain ⟨u, k, -, done⟩ := run_bind_eq_ok done
    rw [s.target_of_isBare json.isBare, no] at done
    cases done
  refine .leaf (fun s limit a => ?_) (fun s limit items y json => none_of y json (lists s items))
    fun s limit fields y json => none_of y json (records s fields)
  refine carries_oneOf trivial trivial (levels_atom s s.room a) fun _ b form => ⟨?_, ?_⟩
  · exact gives_checkReadable_atom (s.limited limit) limit s.room a
  · rw [atoms, form]

/-! Pairs of texts. -/

/-- The texts of the values under a key. -/
def textsUnder (s : Setting) (name : String) (fields : List (String × Tree)) : List (Option String) :=
  (fields.map fun f => (f.1, textAtom? s f.2)).filterMap fun e => if e.1 = name then some e.2 else none

theorem textsUnder_cons (s : Setting) (name : String) (f : String × Tree) (fields : List (String × Tree)) :
    textsUnder s name (f :: fields) =
      if f.1 = name then textAtom? s f.2 :: textsUnder s name fields else textsUnder s name fields := by
  rw [textsUnder, List.map_cons, List.filterMap_cons]
  by_cases same : f.1 = name
  · simp only [same, if_true]
    rfl
  · simp only [same, if_false]
    rfl

/-- A place that is filled with a text at most once. -/
def fill (found text : Option String) : Option (Option String) :=
  if found.isSome then none else text.map some

theorem foldlM_fill {texts : List (Option String)} {a : String} :
    texts.foldlM fill none = some (some a) ↔ texts = [some a] := by
  cases texts with
  | nil => simp
  | cons text texts =>
    cases text with
    | none => simp [fill]
    | some b =>
      cases texts with
      | nil => simp [fill]
      | cons other texts => simp [fill]

/-- One entry of a record that is read as a pair. -/
def addToPair (first second : String) (s : Setting) (found : Option String × Option String)
    (e : Tree × Tree) : Option (Option String × Option String) := do
  match ← pairKey? first second s e.1 with
  | some true => if found.1.isSome then none else return (some (← textAtom? s e.2), found.2)
  | some false => if found.2.isSome then none else return (found.1, some (← textAtom? s e.2))
  | none => return found

theorem pair?_ofFields (first second : String) (s : Setting) (fields : List (String × Tree)) :
    pair? first second s (.ofFields fields) = (do
      let found ← (Fields.written fields).foldlM (addToPair first second s) (none, none)
      return (← found.1, ← found.2)) := rfl

theorem addToPair_text {first second : String} (apart : first ≠ second) (s : Setting) (x y : Option String)
    (name : String) (t : Tree) : addToPair first second s (x, y) (.text name, t) =
      if name = first then (fill x (textAtom? s t)).map (·, y)
      else if name = second then (fill y (textAtom? s t)).map (x, ·) else some (x, y) := by
  have key : pairKey? first second s (.text name) =
    some (if name = first then some true else if name = second then some false else none) := rfl
  simp only [addToPair, key, fill]
  by_cases one : name = first
  · cases x <;> cases textAtom? s t <;> simp [one]
  · by_cases two : name = second
    · cases y <;> cases textAtom? s t <;> simp [two, apart.symm]
    · simp [one, two]

/-- The two places are filled apart from each other. -/
theorem foldlM_addToPair {first second : String} (apart : first ≠ second) (s : Setting)
    (fields : List (String × Tree)) (x y : Option String) :
    (Fields.written fields).foldlM (addToPair first second s) (x, y) = (do
      let x' ← (textsUnder s first fields).foldlM fill x
      let y' ← (textsUnder s second fields).foldlM fill y
      return (x', y')) := by
  induction fields generalizing x y with
  | nil => rfl
  | cons f fields ih =>
    change (addToPair first second s (x, y) (.text f.1, f.2) >>= _) = _
    rw [addToPair_text apart, textsUnder_cons, textsUnder_cons]
    by_cases one : f.1 = first
    · rw [if_pos one, if_pos one, if_neg (one ▸ apart), List.foldlM_cons]
      cases fill x (textAtom? s f.2) with
      | none => rfl
      | some x₁ => exact ih x₁ y
    · rw [if_neg one, if_neg one]
      by_cases two : f.1 = second
      · rw [if_pos two, if_pos two, List.foldlM_cons]
        cases filled : fill y (textAtom? s f.2) with
        | none => cases (textsUnder s first fields).foldlM fill x <;> rfl
        | some y₁ => exact ih x y₁
      · rw [if_neg two, if_neg two]
        exact ih x y

/-- Each key of the pair stands once, over a text. -/
theorem pair?_ofFields_eq_some_iff {first second : String} (apart : first ≠ second) (s : Setting)
    (fields : List (String × Tree)) (a b : String) :
    pair? first second s (.ofFields fields) = some (a, b) ↔
      textsUnder s first fields = [some a] ∧ textsUnder s second fields = [some b] := by
  rw [pair?_ofFields, foldlM_addToPair apart, ← foldlM_fill, ← foldlM_fill]
  generalize (textsUnder s first fields).foldlM fill none = found,
    (textsUnder s second fields).foldlM fill none = found'
  rcases found with _ | _ | x <;> rcases found' with _ | _ | y <;> simp

theorem textsUnder_rearranged {changed : String → Tree → Tree → Prop} {added : String × Tree → Prop}
    {s s' : Setting} {name text : String} {fields fields' : List (String × Tree)}
    (rearranged : Tree.Rearranged changed added fields fields') (apart : ∀ f, added f → f.1 ≠ name)
    (same : ∀ name t t', changed name t t' → textAtom? s' t' = textAtom? s t)
    (once : textsUnder s name fields = [some text]) : textsUnder s' name fields' = [some text] := by
  obtain ⟨kept, more, related, extra, moved⟩ := rearranged
  have others : textsUnder s' name more = [] := by
    refine List.filterMap_eq_nil_iff.mpr fun e member => if_neg ?_
    obtain ⟨f, inside, rfl⟩ := List.mem_map.mp member
    exact apart f (extra f inside)
  have stay : textsUnder s' name kept = textsUnder s name fields := by
    refine congrArg (List.filterMap _) (map_eq_map_of_forall₂ related fun f f' here => ?_)
    rw [here.1, same _ _ _ here.2]
  have perm : (textsUnder s' name fields').Perm (textsUnder s' name (kept ++ more)) :=
    (moved.symm.map _).filterMap _
  have whole : textsUnder s' name (kept ++ more) = [some text] := by
    rw [textsUnder, List.map_append, List.filterMap_append]
    exact (congrArg₂ (· ++ ·) (stay.trans once) others).trans (List.append_nil _)
  exact List.perm_singleton.mp (whole ▸ perm)

theorem textAtom?_reordered (s s' : Setting) {t t' : Tree} (json : t.IsJson) (reordered : t.Reordered t') :
    textAtom? s' t' = textAtom? s t := by
  cases reordered.alike json <;> rfl

section Rearranged

variable {room : Nat} {fields fields' : List (String × Tree)} {added : String × Tree → Prop}
  (json : (Tree.ofFields fields).IsJson)
  (rearranged : Tree.Rearranged (fun _ => Tree.Reordered) added fields fields')
include json rearranged

/-- What has been added goes no deeper than there is room for. -/
theorem fits_rearranged (within : (Tree.ofFields fields).nesting ≤ room + 1)
    (extra : ∀ f, added f → f.2.IsJson ∧ f.2.nesting ≤ room) :
    ∀ f ∈ fields', f.2.IsJson ∧ f.2.nesting ≤ room := by
  obtain ⟨-, each⟩ := Tree.isJson_ofFields_iff.mp json
  intro f' member
  rcases rearranged.source member with ⟨f, here, -, reordered⟩ | other
  · have fits := Tree.nesting_ofFields_le.mp within f here
    exact ⟨reordered.isJson (each f here), reordered.nesting_le room fits⟩
  · exact extra f' other

/-- The two texts are still there, and no other values under their keys. -/
theorem pair?_rearranged {first second x y : String} (apart : first ≠ second)
    (extra : ∀ f, added f → f.1 ≠ first ∧ f.1 ≠ second) {s : Setting} (s' : Setting)
    (read : pair? first second s (.ofFields fields) = some (x, y)) :
    pair? first second s' (.ofFields fields') = some (x, y) := by
  obtain ⟨-, each⟩ := Tree.isJson_ofFields_iff.mp json
  have known := rearranged.and_left each
  have same (name : String) (t t' : Tree) (here : t.IsJson ∧ t.Reordered t') :
      textAtom? s' t' = textAtom? s t := textAtom?_reordered s s' here.1 here.2
  obtain ⟨left, right⟩ := (pair?_ofFields_eq_some_iff apart s fields x y).mp read
  exact (pair?_ofFields_eq_some_iff apart s' fields' x y).mpr
    ⟨textsUnder_rearranged known (fun f other => (extra f other).1) same left,
      textsUnder_rearranged known (fun f other => (extra f other).2) same right⟩

end Rearranged

/-- A text or a record of two texts. -/
theorem pair {type first second : String} {fits : Nat → Tree → Prop} {one : String → α}
    {two : String → String → α} (apart : first ≠ second)
    (shallow : ∀ room t, fits room t → t.nesting < room) :
    Respects (.oneOf type fun s t =>
      (textAtom? s t).map one <|> (pair? first second s t).map fun (a, b) => two a b)
      (.pair first second fits) where
  alike json revised := by
    cases revised with
    | atom a => exact .scalar _
    | fields => exact .record _ _
  carries s limit t t' json revised := by
    cases revised with
    | atom a =>
      refine carries_oneOf trivial trivial (levels_atom s s.room a) fun _ b form => ⟨?_, form⟩
      exact gives_checkReadable_atom (s.limited limit) limit s.room a
    | @fields _ fields fields' rearranged =>
      refine carries_oneOf trivial trivial (levels_of_isJson s json s.room) fun within a form => ⟨?_, ?_⟩
      · obtain ⟨room, more⟩ : ∃ room, s.room = room + 1 :=
          Nat.exists_eq_add_one_of_ne_zero (Nat.ne_of_gt (Nat.lt_of_lt_of_le (Nat.succ_pos _) within))
        have fitting := fits_rearranged json rearranged (more ▸ within) fun f other =>
          ⟨other.2.1, Nat.le_of_lt_succ (Nat.lt_of_lt_of_eq (shallow s.room f.2 other.2.2) more)⟩
        have levels := levels_ofFields (s.limited limit)
          (fun f member => levels_of_isJson _ (fitting f member).1) s.room
        refine levels.gives ?_
        rw [more]
        exact Tree.nesting_ofFields_le.mpr fun f member => (fitting f member).2
      · obtain ⟨⟨x, y⟩, read, made⟩ := Option.map_eq_some_iff.mp
          (show (pair? first second s (.ofFields fields)).map (fun (a, b) => two a b) = some a from form)
        change (pair? first second (s.limited limit) (.ofFields fields')).map _ = some a
        rw [pair?_rearranged json rearranged apart (fun f other => other.1) (s.limited limit) read, ← made]
        rfl

end Scaffold.Document.Respects
