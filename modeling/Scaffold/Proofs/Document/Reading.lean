import Scaffold.Document.Reader

/-! Readers that take back what was written. A tree that is read so follows no alias, and how deep it
goes is counted, since a reader has room for so many levels only. -/
namespace Scaffold.Document

/-! Readings without faults. -/

/-- A reading comes to a value and follows no alias, however many may be followed. -/
def Gives (limit : Nat) (x : Reading α) (a : α) : Prop :=
  ∀ n ≤ limit, x.run n = (.ok a, n)

namespace Gives

variable {limit : Nat}

theorem pure (a : α) : Gives limit (pure a) a :=
  fun _ _ => rfl

theorem bind {x : Reading α} {f : α → Reading β} {a : α} {b : β} (first : Gives limit x a)
    (second : Gives limit (f a) b) : Gives limit (x >>= f) b := by
  intro n bound
  have known : StateT.run x.run n = (.ok a, n) := first n bound
  change StateT.run (x >>= f).run n = _
  rw [ExceptT.run_bind, StateT.run_bind, known]
  exact second n bound

theorem map {x : Reading α} {a : α} (g : α → β) (first : Gives limit x a) :
    Gives limit (g <$> x) (g a) :=
  first.bind (pure (g a))

theorem mapM {f : α → Reading β} {write : β → α} :
    ∀ {bs : List β}, (∀ b ∈ bs, Gives limit (f (write b)) b) →
      Gives limit ((bs.map write).mapM f) bs
  | [], _ => pure []
  | b :: bs, each => by
    have rest := mapM fun c member => each c (List.mem_cons_of_mem b member)
    rw [List.map_cons, List.mapM_cons]
    exact (each b List.mem_cons_self).bind (rest.bind (pure _))

theorem foldlM {f : σ → α → Reading σ} {next : σ → α → σ} :
    ∀ {as : List α} {s : σ}, (∀ s, ∀ a ∈ as, Gives limit (f s a) (next s a)) →
      Gives limit (as.foldlM f s) (as.foldl next s)
  | [], s, _ => pure s
  | a :: as, s, each => by
    rw [List.foldlM_cons, List.foldl_cons]
    exact (each s a List.mem_cons_self).bind
      (foldlM fun s c member => each s c (List.mem_cons_of_mem a member))

theorem forM {f : α → Reading PUnit} :
    ∀ {as : List α}, (∀ a ∈ as, Gives limit (f a) ⟨⟩) → Gives limit (as.forM f) ⟨⟩
  | [], _ => pure _
  | a :: as, each => by
    rw [List.forM_eq_forM, List.forM_cons]
    exact (each a List.mem_cons_self).bind
      (forM fun c member => each c (List.mem_cons_of_mem a member))

end Gives

/-! Trees without aliases and tags. -/

namespace Tree

/-- Neither an alias nor under a tag. -/
def IsBare : Tree → Prop
  | scalar _ | list _ | record _ => True
  | _ => False

/-- A tree that does not say that it is missing. -/
def IsPresent : Tree → Prop
  | scalar s => s.presence = .present
  | list _ | record _ => True
  | _ => False

theorem IsPresent.isBare {t : Tree} (present : t.IsPresent) : t.IsBare := by
  cases t <;> trivial

end Tree

namespace Setting

theorem target_of_isBare (s : Setting) {t : Tree} (bare : t.IsBare) : s.target t = t := by
  cases t <;> first | rfl | cases bare

theorem follow_of_isBare (s : Setting) {t : Tree} (bare : t.IsBare) : s.follow t = pure t := by
  cases t <;> first | rfl | cases bare

theorem bare_of_isBare (s : Setting) {t : Tree} (bare : t.IsBare) : s.bare t = pure t := by
  rw [Setting.bare, s.follow_of_isBare bare, pure_bind]
  cases t <;> first | rfl | cases bare

theorem exists_enter {s : Setting} {depth : Nat} (room : depth + 1 ≤ s.room) :
    ∃ inner : Setting, s.enter = pure inner ∧ depth ≤ inner.room ∧
      inner.aliasLimit = s.aliasLimit := by
  refine ⟨{ s with room := s.room - 1 }, if_neg (by omega), ?_, rfl⟩
  exact Nat.le_sub_of_add_le room

end Setting

/-! Readers. -/

/-- A tree is read as this value wherever there is room for so many levels. -/
def Reads (r : Reader α) (depth : Nat) (t : Tree) (a : α) : Prop :=
  ∀ s : Setting, depth ≤ s.room → Gives s.aliasLimit (r s t) a

namespace Reads

variable {r : Reader α} {depth : Nat}

theorem text (depth : Nat) (s : String) : Reads Reader.text depth (.text s) s :=
  fun _ _ => .pure s

theorem flag (depth : Nat) (b : Bool) : Reads Reader.flag depth (.flag b) b :=
  fun _ _ => .pure b

theorem missing (r : Reader α) (depth : Nat) : Reads (.optional r) depth .null none :=
  fun _ _ => .pure none

theorem optional {t : Tree} {a : α} (reads : Reads r depth t a) (present : t.IsPresent) :
    Reads (.optional r) depth t (some a) := by
  intro s room
  have inside : Gives s.aliasLimit (some <$> r s t) (some a) := (reads s room).map some
  rw [Reader.optional, s.follow_of_isBare present.isBare, pure_bind]
  cases t with
  | scalar sc =>
    have here : sc.presence = .present := present
    simp only [here]
    exact inside
  | list items => exact inside
  | record entries => exact inside
  | tagged t => cases present
  | reference n => cases present
  | broken => cases present

theorem list {write : α → Tree} {as : List α} (each : ∀ a ∈ as, Reads r depth (write a) a) :
    Reads (.list r) (depth + 1) (.list (as.map write)) as := by
  intro s room
  obtain ⟨inner, entered, left, limit⟩ := s.exists_enter room
  simp only [Reader.list, s.bare_of_isBare (t := .list _) trivial, pure_bind, entered]
  exact .mapM fun a member => limit ▸ each a member inner left

/-- Entries put into a map one after the other come to the map that they are the entries of. -/
theorem foldl_insert_toList (m : Std.ExtTreeMap String α) :
    m.toList.foldl (fun found e => found.insert e.1 e.2) ∅ = m := by
  have many (l : List (String × α)) (found : Std.ExtTreeMap String α) :
      l.foldl (fun found e => found.insert e.1 e.2) found = found.insertMany l := by
    induction l generalizing found with
    | nil => rw [List.foldl_nil, Std.ExtTreeMap.insertMany_nil]
    | cons e l ih => rw [List.foldl_cons, ih, Std.ExtTreeMap.insertMany_cons]
  rw [many]
  ext1 name
  cases found : m[name]? with
  | none =>
    rw [Std.ExtTreeMap.getElem?_insertMany_list_of_contains_eq_false]
    · simp
    · rw [Std.ExtTreeMap.map_fst_toList_eq_keys]
      simpa using found
  | some a =>
    have member := Std.ExtTreeMap.mem_toList_iff_getElem?_eq_some.mpr found
    exact Std.ExtTreeMap.getElem?_insertMany_list_of_mem Std.ReflCmp.compare_self
      Std.ExtTreeMap.distinct_keys_toList member

theorem map {write : α → Tree} {m : Std.ExtTreeMap String α}
    (each : ∀ (name : String) (a : α), m[name]? = some a → Reads r depth (write a) a) :
    Reads (.map r) (depth + 1) (.ofFields (m.toList.map fun e => (e.1, write e.2))) m := by
  intro s room
  obtain ⟨inner, entered, left, limit⟩ := s.exists_enter room
  simp only [Reader.map, Tree.ofFields, s.bare_of_isBare (t := .record _) trivial, pure_bind, entered]
  rw [List.map_map, List.foldlM_map]
  refine Eq.subst (motive := Gives _ _) (foldl_insert_toList m) (.foldlM fun found e member => ?_)
  have here := Std.ExtTreeMap.mem_toList_iff_getElem?_eq_some.mp member
  have value : Gives s.aliasLimit (r inner (write e.2)) e.2 := limit ▸ each e.1 e.2 here inner left
  exact (text 0 e.1 s (Nat.zero_le _)).bind (value.map _)

end Reads

/-! Records. -/

/-- The fields of a record in the order of their declaration, with their values if they have any. -/
abbrev Row := List (String × Option Tree)

namespace Row

/-- The entries a row is written as. -/
def entries (row : Row) : List (String × Tree) :=
  row.filterMap fun (name, value) => value.map (name, ·)

theorem entries_append (row row' : Row) : entries (row ++ row') = entries row ++ entries row' :=
  List.filterMap_append

theorem exists_of_mem_entries {row : Row} {e : String × Tree} (member : e ∈ row.entries) :
    (e.1, some e.2) ∈ row := by
  obtain ⟨⟨name, value⟩, inside, made⟩ := List.mem_filterMap.mp member
  obtain ⟨t, rfl, rfl⟩ := Option.map_eq_some_iff.mp made
  exact inside

theorem names_entries_subset (row : Row) : (row.entries.map Prod.fst).Sublist (row.map Prod.fst) := by
  induction row with
  | nil => exact .slnil
  | cons f row ih =>
    obtain ⟨name, value⟩ := f
    cases value with
    | none => exact ih.cons name
    | some t => exact ih.cons_cons name

theorem lookup_entries {row : Row} (distinct : (row.map Prod.fst).Nodup) {name : String}
    {value : Option Tree} (member : (name, value) ∈ row) : row.entries.lookup name = value := by
  induction row with
  | nil => cases member
  | cons f row ih =>
    obtain ⟨first, found⟩ := f
    obtain ⟨fresh, others⟩ := List.nodup_cons.mp distinct
    rcases List.mem_cons.mp member with here | later
    · cases here
      cases value with
      | some t => exact List.lookup_cons_self
      | none =>
        refine List.lookup_eq_none_iff.mpr fun e inside => ?_
        have member : (e.1, some e.2) ∈ row := exists_of_mem_entries inside
        have known : e.1 ∈ row.map Prod.fst := List.mem_map_of_mem (f := Prod.fst) member
        simpa using fun same : name = e.1 => fresh (same ▸ known)
    · have known : name ∈ row.map Prod.fst := List.mem_map_of_mem (f := Prod.fst) later
      have apart : name ≠ first := fun same => fresh (same ▸ known)
      cases found with
      | none => exact ih others later
      | some t =>
        change List.lookup name ((first, t) :: entries row) = value
        rw [List.lookup_cons, beq_false_of_ne apart]
        exact ih others later

end Row

namespace Fields

/-- Entries as they stand in a record. -/
def written (l : List (String × Tree)) : List (Tree × Tree) :=
  l.map fun (name, value) => (.text name, value)

theorem find?_numbered (s : Setting) (name : String) (l : List (String × Tree)) (place : Nat) :
    ((numbered s place (written l)).find? fun e => e.2.1 = name).map (fun e => e.2.2) =
      l.lookup name := by
  induction l generalizing place with
  | nil => rfl
  | cons e l ih =>
    obtain ⟨first, t⟩ := e
    change (List.find? _ ((place, first, t) :: numbered s (place + 1) (written l))).map _ = _
    rw [List.find?_cons, List.lookup_cons]
    by_cases same : first = name
    · simp [same]
    · simp [same, beq_false_of_ne (Ne.symm same), ih]

/-- Known names that stand once are no fault, and unknown ones neither where their values are whole. -/
theorem firstFault_written (s : Setting) {names : List String} :
    ∀ {l : List (String × Tree)} (place : Nat) (seen : List String),
      ((l.map Prod.fst).filter names.contains).Nodup → (∀ e ∈ l, e.1 ∈ names → e.1 ∉ seen) →
      (∀ e ∈ l, e.1 ∉ names → e.2.isComplete = true) →
      firstFault s names seen place (written l) = .value ()
  | [], _, _, _, _, _ => rfl
  | (name, t) :: l, place, seen, distinct, fresh, whole => by
    have whole' := fun e member => whole e (List.mem_cons_of_mem (name, t) member)
    change (if names.contains name then if seen.contains name then _ else
      firstFault s names (name :: seen) (place + 1) (written l) else
        if t.isComplete then firstFault s names seen (place + 1) (written l) else _) = _
    rw [List.map_cons] at distinct
    by_cases known : names.contains name = true
    · have here : name ∈ names := List.contains_iff_mem.mp known
      have new : ¬ seen.contains name := fun again =>
        fresh _ List.mem_cons_self here (List.contains_iff_mem.mp again)
      rw [List.filter_cons_of_pos known] at distinct
      obtain ⟨apart, others⟩ := List.nodup_cons.mp distinct
      rw [if_pos known, if_neg new]
      refine firstFault_written s (place + 1) (name :: seen) others (fun e member inside again => ?_) whole'
      rcases List.mem_cons.mp again with same | before
      · have twice : e.1 ∈ l.map Prod.fst := List.mem_map_of_mem (f := Prod.fst) member
        exact apart (List.mem_filter.mpr ⟨same ▸ twice, known⟩)
      · exact fresh e (List.mem_cons_of_mem _ member) inside before
    · have unknown : name ∉ names := fun inside => known (List.contains_iff_mem.mpr inside)
      rw [List.filter_cons_of_neg known] at distinct
      rw [if_neg known, if_pos (whole _ List.mem_cons_self unknown)]
      exact firstFault_written s (place + 1) seen distinct
        (fun e member => fresh e (List.mem_cons_of_mem _ member)) whole'

theorem followedKeys_written (l : List (String × Tree)) (place : Nat) :
    followedKeys place (written l) = [] := by
  induction l generalizing place with
  | nil => rfl
  | cons e l ih => exact ih (place + 1)

/-- Fields take their values from a row, and follow no alias. -/
structure Takes (fs : Fields α) (depth : Nat) (row : Row) (a : α) : Prop where
  names : fs.names = row.map Prod.fst
  reads : ∀ s : Setting, depth ≤ s.room → ∀ n ≤ s.aliasLimit, ∀ es : Entries,
    (∀ f ∈ row, (es.find? f.1).map Prod.snd = f.2) →
      ∃ followed, fs.read s n es = ⟨.value a, followed⟩ ∧ ∀ p ∈ followed, p.2 = 0

theorem foldl_followed {l : List (Nat × Nat)} (still : ∀ p ∈ l, p.2 = 0) (n : Nat) :
    l.foldl (fun n p => n + p.2) n = n := by
  induction l with
  | nil => rfl
  | cons p l ih =>
    rw [List.foldl_cons, still p List.mem_cons_self, Nat.add_zero]
    exact ih fun q member => still q (List.mem_cons_of_mem p member)

theorem gives_finish {s : Setting} {a : α} {followed : List (Nat × Nat)}
    (still : ∀ p ∈ followed, p.2 = 0) : Gives s.aliasLimit (Outcome.finish s ⟨.value a, followed⟩) a := by
  intro n bound
  have all : (followed.filter fun p => (Verdict.value a).reaches p.1) = followed :=
    List.filter_eq_self.mpr fun _ _ => rfl
  have enough : ¬ s.aliasLimit < n := Nat.not_lt.mpr bound
  have run : (Outcome.finish s ⟨.value a, followed⟩).run n =
      (ExceptT.run (do
        if s.aliasLimit < (followed.filter fun p => (Verdict.value a).reaches p.1).foldl
            (fun n p => n + p.2) n then throw .malformed
        return a : Reading α)) ((followed.filter fun p => (Verdict.value a).reaches p.1).foldl
            (fun n p => n + p.2) n) := rfl
  rw [run, all, foldl_followed still, if_neg enough]
  rfl

namespace Takes

variable {depth : Nat} (name : String)

theorem withDefault {r : Reader α} {default a : α} {value : Option Tree}
    (reads : ∀ t, value = some t → Reads r depth t a) (absent : value = none → default = a) :
    Takes (withDefault name default r) depth [(name, value)] a := by
  refine ⟨rfl, fun s room n bound es look => ?_⟩
  have here := look (name, value) List.mem_cons_self
  simp only [Fields.withDefault]
  cases found : es.find? name with
  | none =>
    rw [found] at here
    exact ⟨[], by rw [absent here.symm]; rfl, nofun⟩
  | some e =>
    rw [found] at here
    refine ⟨[(e.1, 0)], ?_, by simp⟩
    simp only [Outcome.ofReading, reads e.2 here.symm s room n bound, Nat.sub_self, Verdict.ofExcept]

theorem required {r : Reader α} {t : Tree} {a : α} (reads : Reads r depth t a) :
    Takes (required name r) depth [(name, some t)] a := by
  refine ⟨rfl, fun s room n bound es look => ?_⟩
  have here := look (name, some t) List.mem_cons_self
  obtain ⟨⟨place, value⟩, found, same⟩ := Option.map_eq_some_iff.mp here
  cases same
  simp only [Fields.required, found]
  refine ⟨[(place, 0)], ?_, by simp⟩
  simp only [Outcome.ofReading, reads s room n bound, Nat.sub_self, Verdict.ofExcept]

theorem map {fs : Fields α} {row : Row} {a : α} (g : α → β) (takes : Takes fs depth row a) :
    Takes (g <$> fs) depth row (g a) := by
  refine ⟨takes.names, fun s room n bound es look => ?_⟩
  obtain ⟨followed, read, still⟩ := takes.reads s room n bound es look
  refine ⟨followed, ?_, still⟩
  change Outcome.both (fun a _ => g a) (fs.read s n es) (.value ()) = _
  rw [read, Outcome.both, Outcome.value, Verdict.both, List.append_nil]

theorem seq {fs : Fields (α → β)} {gs : Fields α} {row row' : Row} {g : α → β} {a : α}
    (first : Takes fs depth row g) (second : Takes gs depth row' a) :
    Takes (fs <*> gs) depth (row ++ row') (g a) := by
  refine ⟨?_, fun s room n bound es look => ?_⟩
  · change fs.names ++ gs.names = _
    rw [first.names, second.names, List.map_append]
  · obtain ⟨before, read, still⟩ := first.reads s room n bound es
      fun f member => look f (List.mem_append_left row' member)
    obtain ⟨after, read', still'⟩ := second.reads s room n bound es
      fun f member => look f (List.mem_append_right row member)
    refine ⟨before ++ after, ?_, fun p member => ?_⟩
    · change Outcome.both (fun g a => g a) (fs.read s n es) (gs.read s n es) = _
      rw [read, read', Outcome.both, Verdict.both]
    · exact (List.mem_append.mp member).elim (still p) (still' p)

end Takes

theorem reads_record {fs : Fields α} {depth : Nat} {row : Row} {a : α} (takes : Takes fs depth row a)
    (distinct : fs.names.Nodup) :
    Reads (record fs) (depth + 1) (.ofFields row.entries) a := by
  rw [takes.names] at distinct
  intro s room n bound
  obtain ⟨inner, entered, left, limit⟩ := s.exists_enter room
  have look (f : String × Option Tree) (member : f ∈ row) :
      (Entries.find? ⟨numbered s 0 (written row.entries), (written row.entries).length, .missingField⟩
        f.1).map Prod.snd = f.2 := by
    rw [Entries.find?, Option.map_map, ← Row.lookup_entries distinct member]
    exact find?_numbered s f.1 row.entries 0
  obtain ⟨followed, read, still⟩ := takes.reads inner left n (limit ▸ bound) _ look
  have sound : firstFault s fs.names [] 0 (written row.entries) = .value () := by
    have once : (row.entries.map Prod.fst).Nodup := (Row.names_entries_subset row).nodup distinct
    refine firstFault_written s 0 [] (once.filter _) (fun _ _ _ => List.not_mem_nil)
      fun e member unknown => (unknown ?_).elim
    rw [takes.names]
    exact List.mem_map_of_mem (f := Prod.fst) (Row.exists_of_mem_entries member)
  have finished : Gives s.aliasLimit (Outcome.finish s ⟨.value a, followed⟩) a := gives_finish still
  have same : Outcome.both (fun a _ => a) (⟨.value a, followed⟩ : Outcome α)
      ⟨.value (), followedKeys 0 (written row.entries)⟩ = ⟨.value a, followed⟩ := by
    rw [followedKeys_written, Outcome.both, Verdict.both, List.append_nil]
  have run : (record fs s (.ofFields row.entries)).run n =
      (Outcome.finish s (.both (fun a _ => a) (fs.read inner n ⟨numbered s 0 (written row.entries),
        (written row.entries).length, .missingField⟩) ⟨firstFault s fs.names [] 0
          (written row.entries), followedKeys 0 (written row.entries)⟩)).run n := by
    simp only [record, Tree.ofFields, s.bare_of_isBare (t := .record _) trivial, pure_bind, entered]
    rfl
  rw [run, read, sound, same]
  exact finished n bound

end Fields

/-! Values of several forms. -/

-- The room and what an alias stands for are matched on at once, so each equation is stated by itself.
theorem checkReadable_zero (s : Setting) (t : Tree) : checkReadable s 0 t = (do
    match ← s.follow t with
    | .scalar sc => if sc.atom?.isNone then throw .malformed
    | _ => throw .malformed) := by
  delta checkReadable
  exact congrArg (s.follow t >>= ·) (funext fun u => by cases u <;> rfl)

theorem checkReadable_succ (s : Setting) (room : Nat) (t : Tree) : checkReadable s (room + 1) t = (do
    match ← s.follow t with
    | .scalar sc => if sc.atom?.isNone then throw .malformed
    | .list items => items.forM (checkReadable s room)
    | .record entries =>
      entries.forM fun (key, value) => do
        checkReadable s room key
        checkReadable s room value
    | _ => throw .malformed) := by
  delta checkReadable
  exact congrArg (s.follow t >>= ·) (funext fun u => by cases u <;> rfl)

theorem gives_checkReadable_atom (s : Setting) (limit room : Nat) (a : Atom) :
    Gives limit (checkReadable s room (.atom a)) ⟨⟩ := by
  have here : s.follow (.atom a) = pure (.atom a) := s.follow_of_isBare trivial
  cases room with
  | zero =>
    rw [checkReadable_zero, here, pure_bind]
    exact .pure _
  | succ room =>
    rw [checkReadable_succ, here, pure_bind]
    exact .pure _

/-- A record of texts can be read where it can be entered. -/
theorem gives_checkReadable_texts (s : Setting) (limit room : Nat) (texts : List (String × String)) :
    Gives limit (checkReadable s (room + 1) (.ofFields (texts.map fun e => (e.1, .text e.2)))) ⟨⟩ := by
  rw [Tree.ofFields, checkReadable_succ, s.follow_of_isBare (t := .record _) trivial, pure_bind]
  refine .forM fun e member => ?_
  simp only [List.map_map, List.mem_map] at member
  obtain ⟨text, -, rfl⟩ := member
  exact (gives_checkReadable_atom s limit room _).bind (gives_checkReadable_atom s limit room _)

theorem Reads.oneOf {type : String} {form? : Setting → Tree → Option α} {depth : Nat} {t : Tree} {a : α}
    (bare : t.IsBare) (readable : ∀ s limit, depth ≤ s.room → Gives limit (checkReadable s s.room t) ⟨⟩)
    (form : ∀ s, form? s t = some a) : Reads (.oneOf type form?) depth t a := by
  intro s room
  refine (readable s s.aliasLimit room).bind ?_
  rw [s.target_of_isBare bare, form s]
  exact .pure a

theorem pair?_texts (s : Setting) {first second : String} (apart : first ≠ second) (a b : String) :
    pair? first second s (.ofFields [(first, .text a), (second, .text b)]) = some (a, b) := by
  have key (name : String) : pairKey? first second s (.text name) =
      some (if name = first then some true else if name = second then some false else none) := rfl
  have left : pairKey? first second s (.text first) = some (some true) := by
    rw [key, if_pos rfl]
  have right : pairKey? first second s (.text second) = some (some false) := by
    rw [key, if_neg apart.symm, if_pos rfl]
  have found (text : String) : textAtom? s (.text text) = some text := rfl
  simp [pair?, Tree.ofFields, left, right, found]

end Scaffold.Document
