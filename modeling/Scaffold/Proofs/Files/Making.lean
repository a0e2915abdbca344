import Scaffold.Proofs.Files.Repetition

/-! Making directories where paths lead, and in a tree to which directories are added that another tree has
already. What is made is in the other tree too, and it can be made unless the last part of a path is a dot. -/
namespace Scaffold

namespace FileTree.Adds

variable {v m : FileTree}

theorem kept (adds : Adds v m) {p : Location} {e : Entry} (found : v.find? p = some e) : m.find? p = some e := by
  by_cases root : p = []
  · rw [root, find?_nil] at found ⊢
    exact found
  · rw [find?_of_ne_nil _ root] at found ⊢
    rcases adds p with same | ⟨absent, -⟩
    · rw [same, found]
    · rw [found] at absent
      cases absent

theorem find?_eq (adds : Adds v m) {p : Location} (present : v.find? p ≠ none) : v.find? p = m.find? p := by
  obtain ⟨e, found⟩ := Option.ne_none_iff_exists'.mp present
  rw [found, adds.kept found]

theorem put (adds : Adds v m) {p : Location} (inside : p ≠ []) (there : m.find? p = some .directory) :
    Adds (v.put p .directory) m := by
  intro q
  rw [entries_put]
  split
  · next same =>
    rw [find?_of_ne_nil _ inside] at there
    exact .inl (same ▸ there)
  · exact adds q

theorem antisymm (adds : Adds v m) (adds' : Adds m v) : v = m := by
  have same : v.entries = m.entries := by
    ext1 p
    rcases adds p with same | ⟨absent, made⟩
    · exact same.symm
    · rcases adds' p with same | ⟨absent', -⟩
      · exact same
      · rw [made] at absent'
        cases absent'
  cases v
  cases m
  exact congrArg FileTree.mk same

end FileTree.Adds

namespace Files

open FileTree

variable {t v m : FileTree} {here p : Location} {path : String} {names : List String}

theorem go_dotdot (p : Location) : go p ".." = p.dropLast := by
  rw [go, if_neg (by decide), if_pos rfl]

theorem leads_of_allDots (dotted : Path.AllDots names) (start : t.find? p = some .directory) :
    Leads t p names ∧ names.foldl go p = p := by
  induction names with
  | nil => exact ⟨trivial, rfl⟩
  | cons name names ih =>
    obtain ⟨dot, dotted⟩ := List.forall_mem_cons.mp dotted
    rw [dot, List.foldl_cons, Leads, go_dot]
    exact ⟨⟨⟨start, .inl rfl⟩, (ih dotted).1⟩, (ih dotted).2⟩

theorem Leads.dropLast (leads : Leads t p names) : Leads t p names.dropLast := by
  obtain ⟨last, whole⟩ := List.dropLast_prefix names
  rw [← whole] at leads
  exact (leads_append.mp leads).1

/-- A name that leads on in a greater tree and not in a smaller one is missing there. -/
theorem missing_of_not_enters {name : String} (start : v.find? p = some .directory) (enters : Enters m p name)
    (stuck : ¬ Enters v p name) :
    (name ≠ "." ∧ name ≠ "..") ∧ name.utf8ByteSize ≤ nameLimit ∧ v.find? (p ++ [name]) = none := by
  have dot : name ≠ "." := fun dot => stuck ⟨start, .inl dot⟩
  have dots : name ≠ ".." := fun dots => stuck ⟨start, .inr (.inl dots)⟩
  obtain ⟨short, -⟩ := (enters.2.resolve_left dot).resolve_left dots
  refine ⟨⟨dot, dots⟩, short, ?_⟩
  cases found : v.find? (p ++ [name]) with
  | none => rfl
  | some e => exact absurd ⟨start, .inr (.inr ⟨short, found ▸ Option.some_ne_none e⟩)⟩ stuck

section Smaller

variable (proper : v.Proper) (within : Adds v m)

include proper within

/-- Where names lead in both trees, there is a directory in the smaller one if there is one in the other. -/
theorem find?_of_leads (start : v.find? p = some .directory) (leads : Leads v p names)
    (there : m.find? (names.foldl go p) = some .directory) :
    v.find? (names.foldl go p) = some .directory := by
  rcases List.eq_nil_or_concat names with rfl | ⟨front, name, rfl⟩
  · exact start
  · rw [List.concat_eq_append] at leads there ⊢
    obtain ⟨-, ⟨inside, enters⟩, -⟩ := leads_append.mp leads
    rw [List.foldl_append] at there ⊢
    change m.find? (go (front.foldl go p) name) = _ at there
    change v.find? (go (front.foldl go p) name) = _
    by_cases dot : name = "."
    · rw [dot, go_dot]
      exact inside
    by_cases dots : name = ".."
    · rw [dots, go_dotdot]
      exact proper.find?_dropLast (inside ▸ Option.some_ne_none _)
    · rw [go_of_ne _ dot dots] at there ⊢
      have present := ((enters.resolve_left dot).resolve_left dots).2
      rw [within.find?_eq present, there]

theorem walk_eq_notFound {links : Nat} (start : v.find? p = some .directory) (leads : Leads m p names)
    (stuck : ¬ Leads v p names) : walk v links p names = .error .notFound := by
  induction names generalizing p with
  | nil => exact absurd trivial stuck
  | cons name names ih =>
    obtain ⟨enters, leads⟩ := leads
    rw [walk_cons]
    by_cases entered : Enters v p name
    · have further : ¬ Leads v (go p name) names := fun leads => stuck ⟨entered, leads⟩
      have next : v.find? (go p name) = some .directory := by
        cases names with
        | nil => exact absurd trivial further
        | cons other names =>
          have one : Leads v p [name] := ⟨entered, trivial⟩
          exact find?_of_leads proper within start one leads.1.1
      rw [child_eq_ok_iff.mpr ⟨entered, rfl⟩, ok_bind, next]
      exact ih next leads further
    · obtain ⟨⟨dot, dots⟩, short, absent⟩ := missing_of_not_enters start enters entered
      have failed : child v p name = .error .notFound := by
        simp [child, (FileTree.isDirectory_iff v p).mpr start, dot, dots, Nat.not_lt_of_le short, absent]
        rfl
      rw [failed]
      rfl

end Smaller

/-! One directory. -/

theorem find?_origin (here : Location) (path : String) (current : t.find? here = some .directory) :
    t.find? (origin here path) = some .directory := by
  rw [origin]
  split
  · exact find?_nil t
  · exact current

theorem run_ensureDirectory (t : FileTree) (here : Location) (path : String) :
    (ensureDirectory here path).run t =
      match vacant t here path with
      | .ok p => (.ok (), t.put p .directory)
      | .error f => if isDirectory t here path then (.ok (), t) else (.error f, t) := by
  rw [ensureDirectory, run_tryCatch, run_makeDirectory]
  cases vacant t here path with
  | ok p => rfl
  | error f =>
    show (if !isDirectory t here path then throw f else pure () : Action Unit).run t = _
    cases isDirectory t here path <;> rfl

/-- Where every part of a path leads on there is a directory, if there is one in a greater tree. -/
theorem isDirectory_of_leads (proper : v.Proper) (proper' : m.Proper) (within : Adds v m)
    (current : v.find? here = some .directory) (there : isDirectory m here path = true)
    (leads : Leads v (origin here path) (Path.parts path)) : isDirectory v here path = true := by
  obtain ⟨⟨valid, -⟩, found⟩ := (isDirectory_iff proper'.unlinked).mp there
  have inside := find?_of_leads proper within (find?_origin here path current) leads found
  refine (isDirectory_iff proper.unlinked).mpr ⟨⟨valid, ?_⟩, inside⟩
  rw [steps]
  refine leads_append.mpr ⟨leads, ?_⟩
  split
  · exact ⟨⟨inside, .inl rfl⟩, trivial⟩
  · trivial

section Ensuring

variable (proper : v.Proper) (proper' : m.Proper) (within : Adds v m)
  (current : v.find? here = some .directory) (there : isDirectory m here path = true)

include proper proper' within current there

theorem exists_ensureDirectory (leads : Leads v (origin here path) (Path.parts path).dropLast) :
    ∃ u, (ensureDirectory here path).run v = (.ok (), u) := by
  rw [run_ensureDirectory]
  cases free : vacant v here path with
  | ok p => exact ⟨_, rfl⟩
  | error f =>
    refine ⟨v, if_pos (isDirectory_of_leads proper proper' within current there ?_)⟩
    obtain ⟨⟨valid, leads'⟩, -⟩ := (isDirectory_iff proper'.unlinked).mp there
    have leads' := (leads_append.mp leads').1
    rcases List.eq_nil_or_concat (Path.parts path) with none | ⟨front, name, parts⟩
    · rw [none]
      trivial
    rw [List.concat_eq_append] at parts
    rw [parts] at leads' ⊢
    rw [parts, List.dropLast_concat] at leads
    obtain ⟨-, enters, -⟩ := leads_append.mp leads'
    have inside := find?_of_leads proper within (find?_origin here path current) leads enters.1
    refine leads_append.mpr ⟨leads, ?_, trivial⟩
    -- Otherwise the last name would be free.
    refine Classical.byContradiction fun stuck => ?_
    obtain ⟨named, short, absent⟩ := missing_of_not_enters inside enters stuck
    have points := (points_iff proper.unlinked).mpr ⟨rfl, front, ⟨valid, parts, leads, inside, named, short⟩, rfl⟩
    rw [vacant, points.target_eq (Nat.zero_le _), ok_bind, points.place?_eq] at free
    simp [absent] at free
    cases free

theorem ensureDirectory_eq_notFound (stuck : ¬ Leads v (origin here path) (Path.parts path).dropLast) :
    (ensureDirectory here path).run v = (.error .notFound, v) := by
  obtain ⟨⟨valid, leads⟩, -⟩ := (isDirectory_iff proper'.unlinked).mp there
  have walked : walk v linkLimit _ _ = .error .notFound :=
    walk_eq_notFound proper within (find?_origin here path current) (leads_append.mp leads).1.dropLast stuck
  have missing : vacant v here path = .error .notFound := by
    simp only [vacant, target, targetWithin, valid, ok_bind, walked]
    rfl
  have other : ¬ isDirectory v here path = true := by
    intro inside
    obtain ⟨⟨-, leads⟩, -⟩ := (isDirectory_iff proper.unlinked).mp inside
    exact stuck (leads_append.mp leads).1.dropLast
  rw [run_ensureDirectory, missing]
  exact if_neg other

end Ensuring

/-! Directories with their ancestors. -/

/-- A path, or what is above it. -/
inductive Path.Above : String → String → Prop where
  | self (path : String) : Above path path
  | parent {top path parent : String} (found : Path.parent? path = some parent) (filled : parent ≠ "")
      (above : Above top parent) : Above top path

/-- There may be new directories where some paths lead. -/
structure AddsAt (here : Location) (named : String → Prop) (t u : FileTree) : Prop where
  adds : Adds t u
  leads : ∀ p : Location, t.entries[p]? = none → u.entries[p]? ≠ none →
    ∃ path, named path ∧ locate u here path = .ok p

namespace AddsAt

variable {named named' : String → Prop} {u : FileTree}

theorem refl (here : Location) (named : String → Prop) (t : FileTree) : AddsAt here named t t :=
  ⟨.refl t, fun _ absent present => absurd absent present⟩

theorem trans (first : AddsAt here named t u) (second : AddsAt here named u v) : AddsAt here named t v := by
  refine ⟨first.adds.trans second.adds, fun p absent present => ?_⟩
  by_cases between : u.entries[p]? = none
  · exact second.leads p between present
  · obtain ⟨path, known, located⟩ := first.leads p absent between
    exact ⟨path, known, locate_mono second.adds.toKeeps located⟩

theorem mono (more : ∀ path, named path → named' path) (added : AddsAt here named t u) :
    AddsAt here named' t u := by
  refine ⟨added.adds, fun p absent present => ?_⟩
  obtain ⟨path, known, located⟩ := added.leads p absent present
  exact ⟨path, more path known, located⟩

end AddsAt

/-- New directories are where the path leads, or a path above it. -/
theorem addsAt_makeAncestors (here : Location) (path : String) (fuel : Nat) :
    Acts (AddsAt here (Path.Above · path)) (makeAncestors here path fuel) := by
  refine acts_makeAncestors here (R := fun path => AddsAt here (Path.Above · path))
    (fun path t => .refl here _ t) (fun _ _ _ _ => .trans) (fun path t => ?_) ?_ path fuel
  · have adds := adds_makeDirectory here path t
    rw [run_makeDirectory] at adds ⊢
    cases free : vacant t here path with
    | error f => exact .refl here _ t
    | ok p =>
      rw [free] at adds
      obtain ⟨_, few, parent, name, rfl, -, points⟩ := points_of_vacant free
      refine ⟨adds, fun q missing present => ⟨path, .self path, ?_⟩⟩
      have made : (t.put (parent ++ [name]) .directory).find? (parent ++ [name]) = some .directory := by
        rw [find?_put t (by simp), if_pos rfl]
      dsimp only at present
      rw [entries_put] at present
      split at present
      · next same => exact same ▸ locate_of_put points few adds.toKeeps made
      · exact absurd missing present
  · exact fun path parent found filled t u => AddsAt.mono fun top above => .parent found filled above

/-- A directory that a path leads to is where its last name is, if no link is there. -/
theorem Points.find?_of_isDirectory {n : Nat} {name : String} (points : Points m here path n p name)
    (there : isDirectory m here path = true) (plain : ∀ path, m.find? (p ++ [name]) ≠ some (.link path)) :
    m.find? (p ++ [name]) = some .directory := by
  obtain ⟨q, located, found⟩ := isDirectory_eq_true_iff.mp there
  obtain ⟨-, n, -, follows⟩ := locate_eq_ok_iff_follows.mp located
  obtain ⟨k, last⟩ := points.exists_follows_name follows
  cases last with
  | enter next _ rest =>
    obtain rfl := points.eq_of_child next
    split at rest
    · exact rest.inside
    · cases rest
      exact found
  | link next link =>
    obtain rfl := points.eq_of_child next
    exact absurd link (plain _)

/-- What is made of the way to a directory of a greater tree is in that tree too. -/
theorem within_makeAncestors (path : String) (fuel : Nat) (v : FileTree)
    (there : isDirectory m here path = true) (within : Adds v m) :
    Adds ((makeAncestors here path fuel).run v).2 m := by
  refine acts_makeAncestors here (R := fun path v u => isDirectory m here path = true → Adds v m → Adds u m)
    ?_ ?_ ?_ ?_ path fuel v there within
  · exact fun path v _ => id
  · exact fun path t u v first second there within => second there (first there within)
  · intro path v there within
    rw [run_makeDirectory]
    cases free : vacant v here path with
    | error f => exact within
    | ok p =>
      obtain ⟨_, -, parent, name, rfl, absent, points⟩ := points_of_vacant free
      refine within.put (by simp) ((points.mono within.toKeeps).find?_of_isDirectory there fun path link => ?_)
      rw [within.toKeeps.link_iff, absent] at link
      cases link
  · intro path parent found filled v u above there
    obtain ⟨q, located, -⟩ := isDirectory_eq_true_iff.mp there
    exact above (isDirectory_parent located found filled)

/-- The parts of a path before the last one are those of its parent, dots aside. -/
theorem parts_dropLast {parent : String} (found : Path.parent? path = some parent)
    (ending : (Path.parts path).getLast? ≠ some ".") :
    ∃ dots, (Path.parts path).dropLast = Path.parts parent ++ dots ∧ Path.AllDots dots := by
  obtain ⟨before, name, after, parts, dotted, -, -⟩ := Path.parent?_eq_some found
  refine ⟨before, ?_, fun n member => dotted n (List.mem_append_left after member)⟩
  rcases List.eq_nil_or_concat after with rfl | ⟨front, last, rfl⟩
  · rw [parts, ← List.append_assoc, List.dropLast_concat]
  · -- Behind the last name there are only dots.
    have dot : last = "." := dotted last (by simp)
    have whole : Path.parts path = Path.parts parent ++ (before ++ name :: front) ++ ["."] := by
      rw [parts, dot]
      simp
    rw [whole, List.getLast?_concat] at ending
    exact absurd rfl ending

/-- A directory of a greater tree can be made with its ancestors, unless a path ends in a dot. -/
theorem exists_makeAncestors (proper' : m.Proper) {path : String} {fuel : Nat} (enough : path.length < fuel)
    (there : isDirectory m here path = true) (proper : v.Proper) (within : Adds v m)
    (current : v.find? here = some .directory)
    (ending : (Path.parts path).getLast? ≠ some "." ∨ Path.AllDots (Path.parts path)) :
    ∃ u, (makeAncestors here path fuel).run v = (.ok (), u) ∧ isDirectory u here path = true := by
  induction fuel generalizing path with
  | zero => omega
  | succ fuel ih =>
    have start := find?_origin here path current
    obtain ⟨located, -⟩ := (isDirectory_iff proper'.unlinked).mp there
    have named := (checkPath_eq_ok_iff.mp located.1).2.1
    rw [makeAncestors, if_neg (by simpa using named), run_tryCatch]
    -- Either the directory is made at once, or its parent is made before it.
    by_cases leads : Leads v (origin here path) (Path.parts path).dropLast
    · obtain ⟨u, made⟩ := exists_ensureDirectory proper proper' within current there leads
      rw [made]
      exact ⟨u, rfl, isDirectory_of_ensureDirectory made⟩
    have undotted : ¬ Path.AllDots (Path.parts path) :=
      fun dotted => leads (leads_of_allDots dotted start).1.dropLast
    rw [ensureDirectory_eq_notFound proper proper' within current there leads]
    dsimp only
    cases found : Path.parent? path with
    | none => exact absurd (Path.allDots_of_parent?_eq_none found) undotted
    | some parent =>
      obtain ⟨dots, front, dotted⟩ := parts_dropLast found (ending.resolve_right undotted)
      have filled : parent ≠ "" := by
        rintro rfl
        exact leads (front ▸ (leads_of_allDots dotted start).1)
      have above := (isDirectory_iff proper'.unlinked).mpr (located.above found filled)
      have shorter := Path.length_parent_lt found
      obtain ⟨u, made, inside⟩ := ih (by omega) above (Path.parent?_ending found)
      have within' := within_makeAncestors parent fuel v above within
      have adds := adds_makeAncestors here parent fuel v
      have properu := (builds_makeAncestors here parent fuel v proper).1
      rw [made] at within' adds properu
      -- Now all that the path goes through is there.
      have leads : Leads u (origin here path) (Path.parts path).dropLast := by
        obtain ⟨⟨-, leads⟩, inside⟩ := (isDirectory_iff properu.unlinked).mp inside
        rw [front, ← origin_parent here found filled]
        exact leads_append.mpr ⟨(leads_append.mp leads).1, (leads_of_allDots dotted inside).1⟩
      obtain ⟨w, made'⟩ := exists_ensureDirectory properu proper' within' (adds.kept current) there leads
      rw [run_bind, made]
      exact ⟨w, made', isDirectory_of_ensureDirectory made'⟩

/-! Paths that never go back. -/

theorem Path.Above.parts_begin (here : Location) {top : String} (above : Path.Above top path) :
    origin here top = origin here path ∧ Path.parts top <+: Path.parts path := by
  induction above with
  | self => exact ⟨rfl, List.prefix_refl _⟩
  | parent found filled _ ih =>
    obtain ⟨before, name, after, parts, -⟩ := Path.parent?_eq_some found
    exact ⟨ih.1.trans (origin_parent here found filled), ih.2.trans (parts ▸ List.prefix_append _ _)⟩

/-- Behind what is above it a path that never goes back has another name. -/
theorem Path.Above.steps_eq {top parent : String} (above : Path.Above top parent)
    (found : Path.parent? path = some parent) (filled : parent ≠ "") (forward : ".." ∉ Path.parts path) :
    ∃ rest, steps path = Path.parts top ++ rest ∧ ".." ∉ rest ∧ ∃ name ∈ rest, name ≠ "." := by
  obtain ⟨-, between, parts⟩ := above.parts_begin []
  obtain ⟨before, name, after, parts', -, undotted, -⟩ := Path.parent?_eq_some found
  have whole : Path.parts path = Path.parts top ++ (between ++ (before ++ name :: after)) := by
    rw [parts', ← parts, List.append_assoc]
  refine ⟨between ++ (before ++ name :: after) ++ if Path.endsInSlash path then ["."] else [], ?_, ?_,
    name, by simp, undotted filled⟩
  · rw [steps, whole, List.append_assoc]
  · intro back
    rcases List.mem_append.mp back with back | back
    · exact forward (whole ▸ List.mem_append_right _ back)
    · split at back <;> simp at back

/-- A slash at the end of a path leads nowhere else. -/
theorem Follows.eq_of_slash {n : Nat} {q : Location}
    (follows : Follows t p (if Path.endsInSlash path then ["."] else []) n q) : p = q := by
  split at follows
  · cases follows with
    | enter next _ done =>
      cases done
      exact (go_dot p).symm.trans (child_eq_ok_iff.mp next).2
    | link next link =>
      obtain ⟨enters, rfl⟩ := child_eq_ok_iff.mp next
      rw [go_dot, enters.1] at link
      cases link
  · cases follows
    rfl

theorem length_foldl_go_lt (forward : ".." ∉ names) {name : String} (member : name ∈ names) (other : name ≠ ".") :
    p.length < (names.foldl go p).length := by
  obtain ⟨before, after, rfl⟩ := List.append_of_mem member
  simp only [List.mem_append, List.mem_cons, not_or] at forward
  have first := (begins_foldl_go forward.1 p).length_le
  have last := (begins_foldl_go forward.2.2 (go (before.foldl go p) name)).length_le
  rw [go_of_ne _ other (Ne.symm forward.2.1), List.length_append, List.length_singleton] at last
  rw [List.foldl_append, List.foldl_cons, go_of_ne _ other (Ne.symm forward.2.1)]
  omega

section Added

variable {u : FileTree} {q : Location} (rooted : t.Rooted)

include rooted

/-- Names that never go back lead from an added directory to added directories only. -/
theorem Follows.added {n : Nat} (adds : Adds t u) (follows : Follows u p names n q) (absent : t.find? p = none)
    (present : u.find? p ≠ none) (forward : ".." ∉ names) :
    names.foldl go p = q ∧ t.find? q = none ∧ u.find? q ≠ none := by
  have further {p : Location} {name : String} (absent : t.find? p = none) (enters : Enters u p name)
      (onward : ".." ≠ name) : t.find? (go p name) = none ∧ u.find? (go p name) ≠ none := by
    by_cases dot : name = "."
    · rw [dot, go_dot]
      exact ⟨absent, enters.1 ▸ Option.some_ne_none _⟩
    · rw [go_of_ne p dot (Ne.symm onward)]
      refine ⟨?_, ((enters.2.resolve_left dot).resolve_left (Ne.symm onward)).2⟩
      cases found : t.find? (p ++ [name]) with
      | none => rfl
      | some e =>
        rw [rooted p name (found ▸ Option.some_ne_none e)] at absent
        cases absent
  induction follows with
  | done => exact ⟨rfl, absent, present⟩
  | enter next _ _ ih =>
    obtain ⟨enters, rfl⟩ := child_eq_ok_iff.mp next
    rw [List.mem_cons, not_or] at forward
    obtain ⟨absent', present'⟩ := further absent enters forward.1
    exact ih absent' present' forward.2
  | link next link _ _ =>
    -- No links are added.
    obtain ⟨enters, rfl⟩ := child_eq_ok_iff.mp next
    rw [List.mem_cons, not_or] at forward
    rw [adds.toKeeps.link_iff, (further absent enters forward.1).1] at link
    cases link

/-- Where a directory is added on the way of a path that never goes back, what the path leads to is added too,
and it lies deeper. -/
theorem AddsAt.length_lt {parent : String} (found : Path.parent? path = some parent) (filled : parent ≠ "")
    (added : AddsAt here (Path.Above · parent) t u) (forward : ".." ∉ Path.parts path)
    (located : locate u here path = .ok q) (absent : t.find? p = none) (present : u.find? p ≠ none) :
    t.find? q = none ∧ u.find? q ≠ none ∧ p.length < q.length := by
  have inside : p ≠ [] := by
    rintro rfl
    rw [find?_nil] at absent
    cases absent
  rw [find?_of_ne_nil _ inside] at absent present
  obtain ⟨top, above, locatedTop⟩ := added.leads p absent present
  rw [← find?_of_ne_nil _ inside] at absent present
  obtain ⟨rest, whole, forward', name, member, other⟩ := above.steps_eq found filled forward
  obtain ⟨-, _, -, follows⟩ := locate_eq_ok_iff_follows.mp located
  obtain ⟨-, _, -, followsTop⟩ := locate_eq_ok_iff_follows.mp locatedTop
  rw [steps, (above.parts_begin here).1, origin_parent here found filled] at followsTop
  obtain ⟨_, _, r, -, first, slash⟩ := followsTop.exists_of_append
  obtain ⟨_, _, _, -, first', last⟩ := (whole ▸ follows).exists_of_append
  obtain ⟨-, rfl⟩ := first.unique first'
  obtain rfl := slash.eq_of_slash
  obtain ⟨rfl, absent', present'⟩ := Follows.added rooted added.adds last absent present forward'
  exact ⟨absent', present', length_foldl_go_lt forward' member other⟩

/-- What a path that never goes back leads to is there before directories are added on its way. -/
theorem AddsAt.has_of_has {parent : String} (found : Path.parent? path = some parent) (filled : parent ≠ "")
    (added : AddsAt here (Path.Above · parent) t u) (forward : ".." ∉ Path.parts path)
    (there : has u here path = true) : has t here path = true := by
  obtain ⟨q, located, present⟩ := has_eq_true_iff.mp there
  have same (p : Location) : u.find? p = t.find? p := by
    by_cases root : p = []
    · rw [root, find?_nil, find?_nil]
    rcases added.adds p with same | ⟨absent, made⟩
    · rw [find?_of_ne_nil _ root, find?_of_ne_nil _ root, same]
    · rw [← find?_of_ne_nil _ root] at absent made
      have present : u.find? p ≠ none := made ▸ Option.some_ne_none _
      obtain ⟨absent', present', -⟩ := added.length_lt rooted found filled forward located absent present
      -- What the path leads to would be added itself, and be longer than itself.
      obtain ⟨-, -, longer⟩ := added.length_lt rooted found filled forward located absent' present'
      exact absurd longer (Nat.lt_irrefl _)
  obtain ⟨valid, n, few, follows⟩ := locate_eq_ok_iff_follows.mp located
  have more : Extends u t := ⟨fun p present => same p ▸ present, fun p directory => same p ▸ directory⟩
  have follows := follows.of_extends more fun p path => by rw [same]
  exact has_eq_true_iff.mpr ⟨q, locate_eq_ok_iff_follows.mpr ⟨valid, n, few, follows⟩, same q ▸ present⟩

end Added

end Files

end Scaffold
