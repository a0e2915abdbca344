import Scaffold.Proofs.Document.Rearrangement

/-! Revisions of a document that its readers do not see: the entries of records change places, and records
with known fields get entries with other keys. -/
namespace Scaffold.Document

/-- How a tree may become another one where so many levels may still be entered. -/
abbrev Revision := Nat → Tree → Tree → Prop

namespace Revision

/-- Nothing changes but the order of entries. -/
def leaf : Revision := fun _ => Tree.Reordered

inductive list (c : Revision) : Revision where
  | atom {room : Nat} (a : Atom) : list c room (.atom a) (.atom a)
  | items {room : Nat} {items items' : List Tree} (each : List.Forall₂ (c (room - 1)) items items') :
      list c room (.list items) (.list items')

/-- All keys of a map count: none is added. -/
inductive map (c : Revision) : Revision where
  | atom {room : Nat} (a : Atom) : map c room (.atom a) (.atom a)
  | fields {room : Nat} {fields fields' : List (String × Tree)}
      (rearranged : Tree.Rearranged (fun _ => c (room - 1)) (fun _ => False) fields fields') :
      map c room (.ofFields fields) (.ofFields fields')

/-- Items in the order of fields, each revised as its field. -/
inductive InOrder (room : Nat) : List (String × Revision) → List Tree → List Tree → Prop where
  | nil (cs : List (String × Revision)) : InOrder room cs [] []
  | cons {name : String} {c : Revision} {cs : List (String × Revision)} {t t' : Tree}
      {ts ts' : List Tree} (first : c room t t') (rest : InOrder room cs ts ts') :
      InOrder room ((name, c) :: cs) (t :: ts) (t' :: ts')

/-- What may become of the value under a key of a record with these fields. -/
def ofKey (cs : List (String × Revision)) (room : Nat) (name : String) (t t' : Tree) : Prop :=
  (∀ c, (name, c) ∈ cs → c room t t') ∧ (name ∉ cs.map Prod.fst → t.Reordered t')

/-- A record with known fields, or a list that stands for one. Any value may be added under a key that
is not one of a field. -/
inductive record (cs : List (String × Revision)) : Revision where
  | atom {room : Nat} (a : Atom) : record cs room (.atom a) (.atom a)
  | fields {room : Nat} {fields fields' : List (String × Tree)}
      (rearranged : Tree.Rearranged (ofKey cs (room - 1))
        (fun f => f.1 ∉ cs.map Prod.fst ∧ f.2.IsJson) fields fields') :
      record cs room (.ofFields fields) (.ofFields fields')
  | items {room : Nat} {items items' : List Tree} (inOrder : InOrder (room - 1) cs items items') :
      record cs room (.list items) (.list items')

/-- A text or a record of two texts. A value that is added to the record has to fit in there. -/
inductive pair (first second : String) (fits : Nat → Tree → Prop) : Revision where
  | atom {room : Nat} (a : Atom) : pair first second fits room (.atom a) (.atom a)
  | fields {room : Nat} {fields fields' : List (String × Tree)}
      (rearranged : Tree.Rearranged (fun _ => Tree.Reordered)
        (fun f => (f.1 ≠ first ∧ f.1 ≠ second) ∧ f.2.IsJson ∧ fits room f.2) fields fields') :
      pair first second fits room (.ofFields fields) (.ofFields fields')

end Revision

theorem Revision.ofKey.of_mem {cs : List (String × Revision)} {room : Nat} {name : String} {c : Revision}
    {t t' : Tree} (distinct : (cs.map Prod.fst).Nodup) (member : (name, c) ∈ cs) (revised : c room t t') :
    ofKey cs room name t t' := by
  refine ⟨fun d other => ?_, fun unknown => (unknown (List.mem_map_of_mem (f := Prod.fst) member)).elim⟩
  cases List.inj_on_of_nodup_map distinct member other rfl
  exact revised

/-! Readings that follow each other. -/

theorem run_bind_eq_ok {x : Reading α} {f : α → Reading β} {n m : Nat} {b : β}
    (done : (x >>= f).run n = (.ok b, m)) :
    ∃ a k, x.run n = (.ok a, k) ∧ (f a).run k = (.ok b, m) := by
  change StateT.run (x >>= f).run n = _ at done
  rw [ExceptT.run_bind, StateT.run_bind] at done
  rcases first : StateT.run x.run n with ⟨e | a, k⟩
  · rw [first] at done
    cases done
  · rw [first] at done
    exact ⟨a, k, first, done⟩

/-- Where a reading comes to a value, it has followed no alias, and another one comes to the same. -/
def Carries (limit : Nat) (x y : Reading α) : Prop :=
  ∀ n a m, x.run n = (.ok a, m) → m = n ∧ Gives limit y a

namespace Carries

variable {limit : Nat}

theorem pure (a : α) : Carries limit (pure a) (pure a) := by
  intro n b m done
  cases done
  exact ⟨rfl, .pure a⟩

theorem throw (f : Fault) (y : Reading α) : Carries limit (throw f) y := by
  intro n a m done
  cases done

theorem bind {x y : Reading α} {f g : α → Reading β} (first : Carries limit x y)
    (next : ∀ a, Carries limit (f a) (g a)) : Carries limit (x >>= f) (y >>= g) := by
  intro n b m done
  obtain ⟨a, k, begun, ended⟩ := run_bind_eq_ok done
  obtain ⟨rfl, gives⟩ := first n a k begun
  obtain ⟨rfl, gives'⟩ := next a _ b m ended
  exact ⟨rfl, gives.bind gives'⟩

theorem map {x y : Reading α} (g : α → β) (carries : Carries limit x y) :
    Carries limit (g <$> x) (g <$> y) := carries.bind fun a => .pure (g a)

/-- The values that a list is read as, one by one. -/
theorem forall₂_of_mapM {f : α → Reading γ} {g : β → Reading γ} {as : List α} {bs : List β}
    (each : List.Forall₂ (fun a b => Carries limit (f a) (g b)) as bs) {n m : Nat} {cs : List γ}
    (done : (as.mapM f).run n = (.ok cs, m)) :
    m = n ∧ List.Forall₂ (fun b c => Gives limit (g b) c) bs cs := by
  induction each generalizing n cs with
  | nil =>
    cases done
    exact ⟨rfl, .nil⟩
  | cons here rest ih =>
    rw [List.mapM_cons] at done
    obtain ⟨c, k, first, done⟩ := run_bind_eq_ok done
    obtain ⟨cs', k', later, done⟩ := run_bind_eq_ok done
    cases done
    obtain ⟨rfl, gives⟩ := here _ c k first
    obtain ⟨rfl, others⟩ := ih later
    exact ⟨rfl, .cons gives others⟩

end Carries

theorem Gives.mapM_of_forall₂ {limit : Nat} {g : β → Reading γ} {bs : List β} {cs : List γ}
    (each : List.Forall₂ (fun b c => Gives limit (g b) c) bs cs) : Gives limit (bs.mapM g) cs := by
  induction each with
  | nil => exact .pure []
  | cons here rest ih =>
    rw [List.mapM_cons]
    exact here.bind (ih.bind (.pure _))

/-! Settings. -/

namespace Setting

/-- The setting with another limit for aliases. -/
def limited (s : Setting) (limit : Nat) : Setting := { s with aliasLimit := limit }

def inner (s : Setting) : Setting := { s with room := s.room - 1 }

theorem enter_eq (s : Setting) : s.enter = if s.room = 0 then throw .malformed else pure s.inner := rfl

end Setting

/-- A reader does not see a revision. -/
structure Respects (r : Reader α) (c : Revision) : Prop where
  alike : ∀ {room : Nat} {t t' : Tree}, t.IsJson → c room t t' → t.Alike t'
  carries : ∀ (s : Setting) (limit : Nat) {t t' : Tree}, t.IsJson → c s.room t t' →
    Carries limit (r s t) (r (s.limited limit) t')

namespace Respects

variable {r : Reader α} {c : Revision}

/-- A reader of scalars. -/
theorem leaf (scalars : ∀ s limit a, Carries limit (r s (.atom a)) (r (Setting.limited s limit) (.atom a)))
    (lists : ∀ s limit items y, (Tree.list items).IsJson → Carries limit (r s (.list items)) y)
    (records : ∀ s limit fields y, (Tree.ofFields fields).IsJson → Carries limit (r s (.ofFields fields)) y) :
    Respects r .leaf where
  alike json reordered := reordered.alike json
  carries s limit t t' json reordered := by
    cases json with
    | atom a =>
      cases reordered.alike (.atom a)
      exact scalars s limit a
    | list each => exact lists s limit _ _ (.list each)
    | record distinct each => exact records s limit _ _ (.record distinct each)

theorem carries_ofOption (limit : Nat) (o : Option α) :
    Carries limit (Fault.ofOption o) (Fault.ofOption o) := by
  cases o with
  | none => exact .throw _ _
  | some a => exact .pure a

theorem text : Respects .text .leaf :=
  .leaf (fun _ limit a => carries_ofOption limit (Tree.atom a).text?) (fun _ _ _ _ _ => .throw _ _)
    fun _ _ _ _ _ => .throw _ _

theorem flag : Respects .flag .leaf :=
  .leaf (fun _ limit a => carries_ofOption limit (Tree.atom a).flag?) (fun _ _ _ _ _ => .throw _ _)
    fun _ _ _ _ _ => .throw _ _

theorem optional (respects : Respects r c) : Respects (.optional r) c where
  alike := respects.alike
  carries s limit t t' json revised := by
    have inside := (respects.carries s limit json revised).map some
    have alike := respects.alike json revised
    cases alike with
    | scalar sc =>
      rw [Reader.optional, Reader.optional, s.follow_of_isBare (t := .scalar sc) trivial,
        (s.limited limit).follow_of_isBare (t := .scalar sc) trivial, pure_bind, pure_bind]
      cases kind : sc.presence with
      | missing => simp only [kind]; exact .pure none
      | present => simp only [kind]; exact inside
      | contradictory => simp only [kind]; exact .throw _ _
    | list items items' => exact inside
    | record entries entries' => exact inside

theorem carries_enter {s : Setting} {limit : Nat} {x y : Setting → Reading α}
    (inside : s.room ≠ 0 → Carries limit (x s.inner) (y (s.inner.limited limit))) :
    Carries limit (s.enter >>= x) ((s.limited limit).enter >>= y) := by
  rw [Setting.enter_eq, Setting.enter_eq]
  change Carries limit _ ((if s.room = 0 then throw .malformed else pure (s.inner.limited limit)) >>= y)
  by_cases full : s.room = 0
  · rw [if_pos full, if_pos full]
    exact .throw _ _
  · rw [if_neg full, if_neg full, pure_bind, pure_bind]
    exact inside full

theorem list (respects : Respects r c) : Respects (.list r) (.list c) where
  alike json revised := by
    cases revised with
    | atom a => exact .scalar _
    | items each => exact .list _ _
  carries s limit t t' json revised := by
    cases revised with
    | atom a => exact .throw _ _
    | @items _ items items' each =>
      refine carries_enter (x := fun inner => items.mapM (r inner))
        (y := fun inner => items'.mapM (r inner)) fun _ n as m done => ?_
      have both := (List.forall₂_and_left items items').mpr ⟨Tree.isJson_list_iff.mp json, each⟩
      have carried : List.Forall₂ (fun t t' => Carries limit (r s.inner t) (r (s.inner.limited limit) t'))
          items items' := both.imp fun t t' here => respects.carries s.inner limit here.1 here.2
      obtain ⟨same, gives⟩ := Carries.forall₂_of_mapM carried done
      exact ⟨same, .mapM_of_forall₂ gives⟩

/-! Maps. -/

/-- The map of entries, of which the last one with a key stays. -/
def mapOf (found : List (String × α)) : Std.ExtTreeMap String α :=
  found.foldl (fun m e => m.insert e.1 e.2) ∅

theorem map_ofFields (r : Reader α) (s : Setting) (fields : List (String × Tree)) :
    Reader.map r s (.ofFields fields) = s.enter >>= fun inner =>
      mapOf <$> fields.mapM fun f => (f.1, ·) <$> r inner f.2 := by
  have folded (inner : Setting) (m : Std.ExtTreeMap String α) :
      (Fields.written fields).foldlM (fun m e => do
          let name ← Reader.text s e.1
          return m.insert name (← r inner e.2)) m =
        (fun found => found.foldl (fun m (e : String × α) => m.insert e.1 e.2) m) <$>
          fields.mapM fun f => (f.1, ·) <$> r inner f.2 := by
    induction fields generalizing m with
    | nil => simp [Fields.written]
    | cons f fields ih =>
      have text : Reader.text s (.text f.1) = pure f.1 := rfl
      change (Reader.text s (.text f.1) >>= fun name => r inner f.2 >>= fun a =>
        pure (m.insert name a)) >>= (fun m => (Fields.written fields).foldlM _ m) = _
      rw [List.mapM_cons, text]
      simp only [pure_bind, bind_assoc, map_eq_pure_bind, List.foldl_cons, ih]
  exact congrArg (s.enter >>= ·) (funext fun inner => folded inner ∅)

/-- Entries with different keys make the same map in any order. -/
theorem mapOf_perm {found found' : List (String × α)} (moved : found.Perm found')
    (distinct : (found.map Prod.fst).Nodup) : mapOf found = mapOf found' := by
  refine moved.foldl_eq' (fun e member e' member' m => ?_) ∅
  by_cases same : e.1 = e'.1
  · rw [List.inj_on_of_nodup_map distinct member member' same]
  · ext1 name
    simp only [Std.ExtTreeMap.getElem?_insert, Std.LawfulEqCmp.compare_eq_iff_eq]
    by_cases first : e.1 = name
    · simp [first, show e'.1 ≠ name from fun other => same (first.trans other.symm)]
    · simp [first]

theorem fst_of_gives {limit : Nat} {key : String} {x : Reading α} {e : String × α}
    (gives : Gives limit ((key, ·) <$> x) e) : e.1 = key := by
  obtain ⟨a, k, -, done⟩ := run_bind_eq_ok (gives 0 (Nat.zero_le limit))
  cases done
  rfl

theorem map (respects : Respects r c) : Respects (.map r) (.map c) where
  alike json revised := by
    cases revised with
    | atom a => exact .scalar _
    | fields rearranged => exact .record _ _
  carries s limit t t' json revised := by
    cases revised with
    | atom a => exact .throw _ _
    | @fields _ fields fields' rearranged =>
      rw [map_ofFields, map_ofFields]
      refine carries_enter (y := fun inner => mapOf <$>
        fields'.mapM fun f => (f.1, ·) <$> r inner f.2) fun _ n m k done => ?_
      obtain ⟨distinct, each⟩ := Tree.isJson_ofFields_iff.mp json
      obtain ⟨kept, more, same, extra, moved⟩ := rearranged.and_left each
      rw [List.eq_nil_iff_forall_not_mem.mpr extra, List.append_nil] at moved
      have carried : List.Forall₂ (fun (f f' : String × Tree) => Carries limit
          ((f.1, ·) <$> r s.inner f.2) ((f'.1, ·) <$> r (s.inner.limited limit) f'.2)) fields kept := by
        refine same.imp fun f f' here => ?_
        obtain ⟨key, json, revised⟩ := here
        rw [key]
        exact (respects.carries s.inner limit json revised).map _
      obtain ⟨found, k', read, done⟩ := run_bind_eq_ok done
      cases done
      obtain ⟨rfl, gives⟩ := Carries.forall₂_of_mapM carried read
      obtain ⟨found', gives', moved'⟩ := List.perm_comp_forall₂ moved.symm gives
      have keys : found.map Prod.fst = fields.map Prod.fst :=
        (map_eq_map_of_forall₂ gives fun _ _ => fst_of_gives).trans
          (map_eq_map_of_forall₂ same fun _ _ here => here.1)
      rw [mapOf_perm moved'.symm (keys ▸ distinct)]
      exact ⟨rfl, (Gives.mapM_of_forall₂ gives').map mapOf⟩

end Respects

end Scaffold.Document
