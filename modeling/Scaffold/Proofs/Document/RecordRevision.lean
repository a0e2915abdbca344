import Scaffold.Proofs.Document.Revision

/-! Records with known fields. They are read as before when each field is revised as its reader allows,
and nothing else in the record matters as long as it is whole. -/
namespace Scaffold.Document

/-- Some fields come to a value, and no alias is followed for it. -/
def Outcome.Comes (o : Outcome α) (a : α) : Prop :=
  o.verdict = .value a ∧ ∀ p ∈ o.followed, p.2 = 0

theorem Verdict.both_eq_value {g : α → β → γ} {v : Verdict α} {w : Verdict β} {c : γ}
    (done : Verdict.both g v w = .value c) : ∃ a b, v = .value a ∧ w = .value b ∧ g a b = c := by
  cases v with
  | value a =>
    cases w with
    | value b =>
      cases done
      exact ⟨a, b, rfl, rfl, rfl⟩
    | fault => cases done
  | fault p f =>
    cases w with
    | value b => cases done
    | fault q e =>
      rw [Verdict.both] at done
      split at done <;> cases done

namespace Outcome

theorem Comes.both {g : α → β → γ} {x : Outcome α} {y : Outcome β} {a : α} {b : β}
    (first : x.Comes a) (second : y.Comes b) : (Outcome.both g x y).Comes (g a b) := by
  refine ⟨by rw [Outcome.both, first.1, second.1]; rfl, fun p member => ?_⟩
  exact (List.mem_append.mp member).elim (first.2 p) (second.2 p)

theorem comes_value (a : α) : (value a).Comes a := ⟨rfl, nofun⟩

theorem run_of_ofReading {place n : Nat} {x : Reading α} {a : α}
    (done : (ofReading place n x).verdict = .value a) : ∃ m, x.run n = (.ok a, m) := by
  rcases result : x.run n with ⟨e | b, m⟩
  · rw [ofReading, result] at done
    cases done
  · rw [ofReading, result] at done
    cases done
    exact ⟨m, rfl⟩

theorem comes_ofReading (place : Nat) {n : Nat} {x : Reading α} {a : α} (done : x.run n = (.ok a, n)) :
    (ofReading place n x).Comes a := by
  rw [ofReading, done]
  exact ⟨rfl, by simp⟩

theorem run_finish {s : Setting} {o : Outcome α} {n m : Nat} {a : α}
    (done : (finish s o).run n = (.ok a, m)) :
    o.verdict = .value a ∧ ((∀ p ∈ o.followed, p.2 = 0) → m = n) := by
  rcases o with ⟨verdict, followed⟩
  let total := (followed.filter fun p => verdict.reaches p.1).foldl (fun n p => n + p.2) n
  cases verdict with
  | value b =>
    have run : (finish s ⟨.value b, followed⟩).run n = ExceptT.run (do
        if s.aliasLimit < total then throw .malformed
        return b : Reading α) total := rfl
    rw [run] at done
    by_cases many : s.aliasLimit < total
    · rw [if_pos many] at done
      cases done
    · rw [if_neg many] at done
      obtain ⟨value, ended⟩ := Prod.mk.inj done
      refine ⟨congrArg Verdict.value (Except.ok.inj value), fun still => ended.symm.trans ?_⟩
      exact Fields.foldl_followed (fun p member => still p (List.mem_filter.mp member).1) n
  | fault place f =>
    have run : (finish s ⟨.fault place f, followed⟩ : Reading α).run n = ExceptT.run (do
        if s.aliasLimit < total then throw .malformed
        throw f : Reading α) total := rfl
    rw [run] at done
    by_cases many : s.aliasLimit < total
    · rw [if_pos many] at done
      cases done
    · rw [if_neg many] at done
      cases done

end Outcome

/-- The entries of the fields are revised, each as its field is. -/
def Entries.Revised (cs : List (String × Revision)) (room : Nat) (es es' : Entries) : Prop :=
  ∀ name c, (name, c) ∈ cs → Option.Rel (fun t t' => t.IsJson ∧ c room t t')
    ((es.find? name).map Prod.snd) ((es'.find? name).map Prod.snd)

/-- The entry of a field is missing before and after, or there before and after. -/
theorem Entries.Revised.found {cs : List (String × Revision)} {room : Nat} {es es' : Entries}
    (revised : es.Revised cs room es') {name : String} {c : Revision} (member : (name, c) ∈ cs) :
    (es.find? name = none ∧ es'.find? name = none) ∨
      ∃ e e', es.find? name = some e ∧ es'.find? name = some e' ∧ e.2.IsJson ∧ c room e.2 e'.2 := by
  have here := revised name c member
  cases found : es.find? name with
  | none =>
    cases found' : es'.find? name with
    | none => exact .inl ⟨rfl, rfl⟩
    | some e' => rw [found, found'] at here; cases here
  | some e =>
    cases found' : es'.find? name with
    | none => rw [found, found'] at here; cases here
    | some e' =>
      rw [found, found'] at here
      obtain ⟨json, revised⟩ : e.2.IsJson ∧ c room e.2 e'.2 := by cases here; assumption
      exact .inr ⟨e, e', rfl, rfl, json, revised⟩

/-- Fields do not see a revision of their entries. -/
structure Follows (fs : Fields α) (cs : List (String × Revision)) : Prop where
  names : fs.names = cs.map Prod.fst
  reads : ∀ (s : Setting) (limit n : Nat) {es es' : Entries}, es.Revised cs s.room es' → ∀ a,
    (fs.read s n es).verdict = .value a →
      (fs.read s n es).Comes a ∧ ∀ n' ≤ limit, (fs.read (s.limited limit) n' es').Comes a

namespace Follows

variable {r : Reader α} {c : Revision}

/-- An entry that is there, and what has become of it. -/
theorem comes_entry (respects : Respects r c) {s : Setting} {limit n place place' : Nat} {t t' : Tree}
    (json : t.IsJson) (revised : c s.room t t') {a : α}
    (done : (Outcome.ofReading place n (r s t)).verdict = .value a) :
    (Outcome.ofReading place n (r s t)).Comes a ∧
      ∀ n' ≤ limit, (Outcome.ofReading place' n' (r (s.limited limit) t')).Comes a := by
  obtain ⟨m, read⟩ := Outcome.run_of_ofReading done
  obtain ⟨rfl, gives⟩ := respects.carries s limit json revised n a m read
  exact ⟨Outcome.comes_ofReading place read, fun n' bound => Outcome.comes_ofReading place' (gives n' bound)⟩

theorem withDefault (name : String) (default : α) (respects : Respects r c) :
    Follows (Fields.withDefault name default r) [(name, c)] where
  names := rfl
  reads s limit n es es' revised a done := by
    simp only [Fields.withDefault] at done ⊢
    rcases revised.found List.mem_cons_self with ⟨absent, absent'⟩ | ⟨e, e', found, found', json, here⟩
    · rw [absent] at done ⊢
      rw [absent']
      cases done
      exact ⟨Outcome.comes_value _, fun _ _ => Outcome.comes_value _⟩
    · rw [found] at done ⊢
      rw [found']
      exact comes_entry respects json here done

theorem maybe (name : String) (respects : Respects r c) : Follows (Fields.maybe name r) [(name, c)] :=
  .withDefault name none respects.optional

theorem required (name : String) (respects : Respects r c) :
    Follows (Fields.required name r) [(name, c)] where
  names := rfl
  reads s limit n es es' revised a done := by
    simp only [Fields.required] at done ⊢
    rcases revised.found List.mem_cons_self with ⟨absent, -⟩ | ⟨e, e', found, found', json, here⟩
    · rw [absent] at done
      cases done
    · rw [found] at done ⊢
      rw [found']
      exact comes_entry respects json here done

theorem map {fs : Fields α} {cs : List (String × Revision)} (g : α → β) (follows : Follows fs cs) :
    Follows (g <$> fs) cs where
  names := follows.names
  reads s limit n es es' revised b done := by
    change Verdict.both (fun a _ => g a) (fs.read s n es).verdict (.value ()) = _ at done
    obtain ⟨a, u, read, -, rfl⟩ := Verdict.both_eq_value done
    obtain ⟨comes, comes'⟩ := follows.reads s limit n revised a read
    exact ⟨comes.both (Outcome.comes_value ()),
      fun n' bound => (comes' n' bound).both (Outcome.comes_value ())⟩

theorem seq {fs : Fields (α → β)} {gs : Fields α} {cs ds : List (String × Revision)}
    (first : Follows fs cs) (second : Follows gs ds) : Follows (fs <*> gs) (cs ++ ds) where
  names := by
    change fs.names ++ gs.names = _
    rw [first.names, second.names, List.map_append]
  reads s limit n es es' revised b done := by
    change Verdict.both (fun g a => g a) (fs.read s n es).verdict (gs.read s n es).verdict = _ at done
    obtain ⟨g, a, read, read', rfl⟩ := Verdict.both_eq_value done
    obtain ⟨comes, comes'⟩ := first.reads s limit n
      (fun name c member => revised name c (List.mem_append_left ds member)) g read
    obtain ⟨others, others'⟩ := second.reads s limit n
      (fun name c member => revised name c (List.mem_append_right cs member)) a read'
    exact ⟨comes.both others, fun n' bound => (comes' n' bound).both (others' n' bound)⟩

end Follows

namespace Respects

theorem carries_finish {s : Setting} {limit : Nat} {x y : Nat → Outcome α}
    (comes : ∀ n a, (x n).verdict = .value a → (x n).Comes a ∧ ∀ n' ≤ limit, (y n').Comes a) :
    Carries limit (do Outcome.finish s (x (← get))) (do Outcome.finish (s.limited limit) (y (← get))) := by
  intro n a m done
  have done : (Outcome.finish s (x n)).run n = (.ok a, m) := done
  obtain ⟨read, same⟩ := Outcome.run_finish done
  obtain ⟨here, there⟩ := comes n a read
  refine ⟨same here.2, fun n' bound => ?_⟩
  obtain ⟨verdict, still⟩ := there n' bound
  have gives : Gives limit (Outcome.finish (s.limited limit) (y n')) a := by
    rw [show y n' = ⟨.value a, (y n').followed⟩ from by rw [← verdict]]
    exact Fields.gives_finish (s := s.limited limit) still
  exact gives n' bound

variable {fs : Fields α} {cs : List (String × Revision)}

/-- What the fields of a record are looked up in. -/
def entriesOf (s : Setting) (fields : List (String × Tree)) : Entries :=
  ⟨Fields.numbered s 0 (Fields.written fields), (Fields.written fields).length, .missingField⟩

/-- What becomes of a record whatever its fields are read as. -/
def keysOf (s : Setting) (names : List String) (fields : List (String × Tree)) : Outcome Unit :=
  ⟨Fields.firstFault s names [] 0 (Fields.written fields),
    Fields.followedKeys 0 (Fields.written fields)⟩

theorem record_ofFields (fs : Fields α) (s : Setting) (fields : List (String × Tree)) :
    Fields.record fs s (.ofFields fields) = (do
      let inner ← s.enter
      Outcome.finish s (.both (fun a _ => a) (fs.read inner (← get) (entriesOf s fields))
        (keysOf s fs.names fields))) := rfl

theorem find?_entriesOf (s : Setting) (name : String) (fields : List (String × Tree)) :
    ((entriesOf s fields).find? name).map Prod.snd = fields.lookup name := by
  rw [Entries.find?, Option.map_map]
  exact Fields.find?_numbered s name fields 0

section Rearranged

variable {room : Nat} {fields fields' : List (String × Tree)} (json : (Tree.ofFields fields).IsJson)
  (rearranged : Tree.Rearranged (Revision.ofKey cs room)
    (fun f => f.1 ∉ cs.map Prod.fst ∧ f.2.IsJson) fields fields')
include json rearranged

theorem revised_entriesOf (s s' : Setting) :
    (entriesOf s fields).Revised cs room (entriesOf s' fields') := by
  intro name c member
  obtain ⟨distinct, each⟩ := Tree.isJson_ofFields_iff.mp json
  have known : name ∈ cs.map Prod.fst := List.mem_map_of_mem (f := Prod.fst) member
  have apart (f : String × Tree) (extra : f.1 ∉ cs.map Prod.fst ∧ f.2.IsJson) : f.1 ≠ name :=
    fun same => extra.1 (same ▸ known)
  have found := (rearranged.and_left each).lookup distinct apart
  rw [find?_entriesOf, find?_entriesOf]
  generalize fields.lookup name = before, fields'.lookup name = after at found
  cases found with
  | none => exact .none
  | some here => exact .some ⟨here.1, here.2.1 c member⟩

/-- The record is at fault in none of its keys, nor in an unknown value. -/
theorem comes_keysOf (s : Setting) : (keysOf s (cs.map Prod.fst) fields').Comes () := by
  obtain ⟨distinct, each⟩ := Tree.isJson_ofFields_iff.mp json
  have sound : Fields.firstFault s (cs.map Prod.fst) [] 0 (Fields.written fields') = .value () := by
    refine Fields.firstFault_written s 0 [] (rearranged.known_nodup distinct fun f extra => ?_)
      (fun _ _ _ => List.not_mem_nil) fun f' member unknown => ?_
    · simpa using extra.1
    · rcases rearranged.source member with ⟨f, inside, key, -, reordered⟩ | ⟨-, whole⟩
      · exact ((reordered (key ▸ unknown)).isJson (each f inside)).isComplete
      · exact whole.isComplete
  refine ⟨sound, ?_⟩
  rw [keysOf, Fields.followedKeys_written]
  exact nofun

end Rearranged

/-- A field of a list is looked up item by item. -/
theorem find?_positional_cons (place size : Nat) (missing : String → Fault) (first name : String)
    (names : List String) (t : Tree) (ts : List Tree) :
    (Entries.find? ⟨Fields.positional place (first :: names) (t :: ts), size, missing⟩ name).map Prod.snd =
      if first = name then some t
      else (Entries.find? ⟨Fields.positional (place + 1) names ts, size, missing⟩ name).map Prod.snd := by
  simp only [Entries.find?, Fields.positional, List.find?_cons]
  by_cases same : first = name
  · simp [same]
  · simp [same]

theorem revised_positional {room place : Nat} {items items' : List Tree} {size size' : Nat}
    {missing missing' : String → Fault} (inOrder : Revision.InOrder room cs items items')
    (distinct : (cs.map Prod.fst).Nodup) (each : ∀ t ∈ items, t.IsJson) :
    Entries.Revised cs room ⟨Fields.positional place (cs.map Prod.fst) items, size, missing⟩
      ⟨Fields.positional place (cs.map Prod.fst) items', size', missing'⟩ := by
  intro name c member
  induction inOrder generalizing place with
  | nil cs =>
    cases cs with
    | nil => cases member
    | cons => exact .none
  | @cons first c' cs t t' ts ts' here rest ih =>
    obtain ⟨fresh, others⟩ := List.nodup_cons.mp distinct
    rw [List.map_cons, find?_positional_cons, find?_positional_cons]
    rcases List.mem_cons.mp member with same | later
    · cases same
      rw [if_pos rfl, if_pos rfl]
      exact .some ⟨each t List.mem_cons_self, here⟩
    · have known : name ∈ cs.map Prod.fst := List.mem_map_of_mem (f := Prod.fst) later
      have apart : first ≠ name := fun same => fresh (same ▸ known)
      rw [if_neg apart, if_neg apart]
      exact ih others (fun u inside => each u (List.mem_cons_of_mem t inside)) later

theorem length_inOrder {room : Nat} {items items' : List Tree}
    (inOrder : Revision.InOrder room cs items items') : items.length = items'.length := by
  induction inOrder with
  | nil => rfl
  | cons first rest ih => rw [List.length_cons, List.length_cons, ih]

theorem record_list (fs : Fields α) (s : Setting) (items : List Tree) :
    Fields.record fs s (.list items) =
      if s.listsAreRecords then s.enter >>= fun inner => (do
        let a ← (do Outcome.finish s (fs.read inner (← get)
          ⟨Fields.positional 0 fs.names items, items.length, fun _ => .malformed⟩))
        if fs.names.length < items.length then throw .malformed
        return a)
      else throw .malformed := rfl

theorem record (follows : Follows fs cs) (distinct : fs.names.Nodup) :
    Respects (Fields.record fs) (.record cs) where
  alike json revised := by
    cases revised with
    | atom a => exact .scalar _
    | fields => exact .record _ _
    | items => exact .list _ _
  carries s limit t t' json revised := by
    cases revised with
    | atom a => exact .throw _ _
    | @fields _ fields fields' rearranged =>
      rw [record_ofFields, record_ofFields]
      refine carries_enter fun _ => carries_finish fun n a done => ?_
      obtain ⟨b, u, read, sound, rfl⟩ := Verdict.both_eq_value done
      obtain ⟨comes, comes'⟩ := follows.reads s.inner limit n
        (revised_entriesOf json rearranged s (s.limited limit)) b read
      have still : (keysOf s fs.names fields).followed = [] := Fields.followedKeys_written fields 0
      have others : (keysOf s fs.names fields).Comes u := ⟨sound, by rw [still]; exact nofun⟩
      have others' : (keysOf (s.limited limit) fs.names fields').Comes () :=
        follows.names ▸ comes_keysOf json rearranged (s.limited limit)
      exact ⟨comes.both others, fun n' bound => (comes' n' bound).both others'⟩
    | @items _ items items' inOrder =>
      rw [record_list, record_list]
      by_cases lists : s.listsAreRecords
      · rw [if_pos lists, if_pos (show (s.limited limit).listsAreRecords = true from lists)]
        refine carries_enter fun _ => .bind (carries_finish fun n a done => ?_) fun a => ?_
        · rw [follows.names] at distinct done ⊢
          exact follows.reads s.inner limit n
            (revised_positional inOrder distinct (Tree.isJson_list_iff.mp json)) a done
        · rw [← length_inOrder inOrder]
          by_cases many : fs.names.length < items.length
          · rw [if_pos many]
            exact .throw _ _
          · rw [if_neg many]
            exact .pure a
      · rw [if_neg lists]
        exact .throw _ _

end Respects

end Scaffold.Document
