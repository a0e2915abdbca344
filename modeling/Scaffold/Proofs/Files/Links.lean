import Scaffold.Files.Operations
import Scaffold.Proofs.Files.Tree

/-! Where paths lead in a tree with links, and that they go on leading there while the tree grows. -/
namespace Scaffold

open FileTree

/-! Growing trees. -/

/-- Two entries that differ in the bytes of a file at most. -/
def Entry.SameKind : Entry → Entry → Prop
  | .file _ a, .file _ b => a = b
  | .directory, .directory => True
  | .link a, .link b => a = b
  | _, _ => False

namespace Entry.SameKind

theorem refl (e : Entry) : e.SameKind e := by
  cases e with
  | file => exact Eq.refl _
  | directory => trivial
  | link => exact Eq.refl _

theorem trans {e f g : Entry} (first : e.SameKind f) (second : f.SameKind g) : e.SameKind g := by
  cases e <;> cases f <;> cases g <;> first | trivial | exact Eq.trans first second

theorem eq_directory {e : Entry} (same : Entry.directory.SameKind e) : e = .directory := by
  cases e <;> first | rfl | cases same

theorem eq_link {e : Entry} {path : String} (same : (Entry.link path).SameKind e) : e = .link path := by
  cases e <;> first | exact congrArg Entry.link (Eq.symm same) | cases same

theorem exists_file {e : Entry} {bytes : ByteArray} {isProgram : Bool}
    (same : (Entry.file bytes isProgram).SameKind e) : ∃ bytes', e = .file bytes' isProgram := by
  cases e with
  | file bytes' => exact ⟨bytes', congrArg _ (Eq.symm same)⟩
  | directory => cases same
  | link => cases same

end Entry.SameKind

namespace FileTree

/-- The entries of a tree are in another one, where files may have other bytes and no more links are. -/
structure Keeps (t u : FileTree) : Prop where
  entries : ∀ (p : Location) (e : Entry), t.entries[p]? = some e →
    ∃ e', u.entries[p]? = some e' ∧ e.SameKind e'
  links : ∀ (p : Location) (path : String), u.entries[p]? = some (.link path) →
    t.entries[p]? = some (.link path)

namespace Keeps

variable {t u v : FileTree} {p : Location}

theorem refl (t : FileTree) : Keeps t t := ⟨fun _ e found => ⟨e, found, .refl e⟩, fun _ _ found => found⟩

theorem trans (first : Keeps t u) (second : Keeps u v) : Keeps t v := by
  refine ⟨fun p e found => ?_, fun p path found => first.links p path (second.links p path found)⟩
  obtain ⟨e', found', same⟩ := first.entries p e found
  obtain ⟨e'', found'', same'⟩ := second.entries p e' found'
  exact ⟨e'', found'', same.trans same'⟩

theorem find? (keeps : Keeps t u) {e : Entry} (found : t.find? p = some e) :
    ∃ e', u.find? p = some e' ∧ e.SameKind e' := by
  by_cases root : p = []
  · rw [root, find?_nil] at found ⊢
    exact ⟨e, found, .refl e⟩
  · rw [find?_of_ne_nil _ root] at found ⊢
    exact keeps.entries p e found

theorem directory (keeps : Keeps t u) (found : t.find? p = some .directory) :
    u.find? p = some .directory := by
  obtain ⟨e, found', same⟩ := keeps.find? found
  rw [found', same.eq_directory]

theorem file (keeps : Keeps t u) {bytes : ByteArray} {isProgram : Bool}
    (found : t.find? p = some (.file bytes isProgram)) :
    ∃ bytes', u.find? p = some (.file bytes' isProgram) := by
  obtain ⟨e, found', same⟩ := keeps.find? found
  obtain ⟨bytes', rfl⟩ := same.exists_file
  exact ⟨bytes', found'⟩

theorem link_iff (keeps : Keeps t u) {path : String} :
    u.find? p = some (.link path) ↔ t.find? p = some (.link path) := by
  constructor
  · by_cases root : p = []
    · rw [root, find?_nil, find?_nil]
      exact id
    · rw [find?_of_ne_nil _ root, find?_of_ne_nil _ root]
      exact keeps.links p path
  · intro found
    obtain ⟨e, found', same⟩ := keeps.find? found
    rw [found', same.eq_link]

theorem toExtends (keeps : Keeps t u) : Extends t u where
  entries place present := by
    obtain ⟨e, found⟩ := Option.ne_none_iff_exists'.mp present
    obtain ⟨e', found', -⟩ := keeps.find? found
    rw [found']
    exact Option.some_ne_none e'
  directories _ found := keeps.directory found

/-- A new entry that is no link may be put where nothing is. -/
theorem put_new {e : Entry} (linkless : ∀ path, e ≠ .link path) (absent : t.entries[p]? = none) :
    Keeps t (t.put p e) := by
  refine ⟨fun q f found => ⟨f, ?_, .refl f⟩, fun q path found => ?_⟩
  · rw [entries_put, if_neg]
    · exact found
    · rintro rfl
      rw [found] at absent
      cases absent
  · rw [entries_put] at found
    split at found
    · exact absurd (Option.some.inj found) (linkless path)
    · exact found

/-- Other bytes may be put where there is a file or nothing. -/
theorem putBytes (inside : p ≠ [])
    (free : t.find? p = none ∨ ∃ bytes isProgram, t.find? p = some (.file bytes isProgram))
    (bytes : ByteArray) : Keeps t (t.putBytes p bytes) := by
  rcases free with absent | ⟨old, isProgram, found⟩
  · rw [find?_of_ne_nil _ inside] at absent
    exact put_new nofun absent
  · have whole : t.putBytes p bytes = t.put p (.file bytes isProgram) := by
      rw [FileTree.putBytes, found]
    rw [find?_of_ne_nil _ inside] at found
    rw [whole]
    refine ⟨fun q e there => ?_, fun q path there => ?_⟩
    · rw [entries_put]
      by_cases same : q = p
      · rw [same, found] at there
        rw [if_pos same, ← Option.some.inj there]
        exact ⟨_, rfl, Eq.refl isProgram⟩
      · rw [if_neg same]
        exact ⟨e, there, .refl e⟩
    · rw [entries_put] at there
      split at there
      · cases there
      · exact there

end Keeps

end FileTree

namespace Files

/-! Going on by names. -/

/-- Where a name leads from a place. -/
def go (p : Location) (name : String) : Location :=
  if name = "." then p else if name = ".." then p.dropLast else p ++ [name]

@[simp] theorem go_dot (p : Location) : go p "." = p := if_pos rfl

theorem go_of_ne {name : String} (p : Location) (other : name ≠ ".") (other' : name ≠ "..") :
    go p name = p ++ [name] := by
  rw [go, if_neg other, if_neg other']

/-- A name leads on from a place. -/
def Enters (t : FileTree) (p : Location) (name : String) : Prop :=
  t.find? p = some .directory ∧
    (name = "." ∨ name = ".." ∨
      name.utf8ByteSize ≤ nameLimit ∧ t.find? (p ++ [name]) ≠ none)

theorem Enters.mono {t u : FileTree} {p : Location} {name : String} (more : Extends t u)
    (enters : Enters t p name) : Enters u p name :=
  ⟨more.directories p enters.1,
    enters.2.imp_right (.imp_right fun ⟨short, present⟩ => ⟨short, more.entries _ present⟩)⟩

/-- A name leads on where there is something of that name. -/
theorem child_eq_ok_iff {t : FileTree} {p q : Location} {name : String} :
    child t p name = .ok q ↔ Enters t p name ∧ go p name = q := by
  unfold child Enters go
  rw [← isDirectory_iff, ← Option.isSome_iff_ne_none]
  cases t.isDirectory p
  · simp [throw_bind]
  · by_cases dot : name = "."
    · simp [dot, pure, Except.pure]
    · by_cases dots : name = ".."
      · simp [dots, pure, Except.pure]
      · by_cases long : nameLimit < name.utf8ByteSize
        · simp [dot, dots, long, throw_bind, Nat.not_le_of_lt long]
        · cases found : t.find? (p ++ [name]) <;>
            simp [dot, dots, long, pure, Except.pure, throw_bind, Nat.le_of_not_lt long]

/-! Following links. -/

/-- Names lead from a place to another one through so many links. -/
inductive Follows (t : FileTree) : Location → List String → Nat → Location → Prop
  | done {p : Location} : Follows t p [] 0 p
  | enter {p q r : Location} {name : String} {names : List String} {n : Nat}
      (next : child t p name = .ok q) (plain : ∀ path, t.find? q ≠ some (.link path))
      (rest : Follows t q names n r) : Follows t p (name :: names) n r
  | link {p q r : Location} {name path : String} {names : List String} {n : Nat}
      (next : child t p name = .ok q) (link : t.find? q = some (.link path))
      (rest : Follows t (origin p path) (steps path ++ names) n r) :
      Follows t p (name :: names) (n + 1) r

variable {t u : FileTree} {here p q r : Location} {path : String} {names xs ys : List String} {n m : Nat}

theorem child_mono (more : Extends t u) {name : String} (found : child t p name = .ok q) :
    child u p name = .ok q := by
  obtain ⟨enters, there⟩ := child_eq_ok_iff.mp found
  exact child_eq_ok_iff.mpr ⟨enters.mono more, there⟩

theorem walk_cons (links : Nat) (name : String) : walk t links p (name :: names) = (do
    let next ← child t p name
    match t.find? next with
    | some (.link path) =>
      match links with
      | 0 => throw .tooManyLinks
      | links + 1 => walk t links (origin p path) (steps path ++ names)
    | _ => walk t links next names) := by
  cases links <;> rfl

namespace Follows

theorem of_extends (more : Extends t u)
    (links : ∀ (p : Location) (path : String), u.find? p = some (.link path) ↔ t.find? p = some (.link path))
    (follows : Follows t p names n q) : Follows u p names n q := by
  induction follows with
  | done => exact .done
  | enter next plain _ ih =>
    exact .enter (child_mono more next) (fun path found => plain path ((links _ _).mp found)) ih
  | link next link _ ih => exact .link (child_mono more next) ((links _ _).mpr link) ih

theorem mono (keeps : Keeps t u) (follows : Follows t p names n q) : Follows u p names n q :=
  follows.of_extends keeps.toExtends fun _ _ => keeps.link_iff

theorem unique (follows : Follows t p names n q) (other : Follows t p names m r) : n = m ∧ q = r := by
  induction follows generalizing m with
  | done =>
    cases other
    exact ⟨rfl, rfl⟩
  | enter next plain _ ih =>
    cases other with
    | enter next' _ rest =>
      rw [next] at next'
      cases next'
      exact ih rest
    | link next' link =>
      rw [next] at next'
      cases next'
      exact absurd link (plain _)
  | link next link _ ih =>
    cases other with
    | enter next' plain =>
      rw [next] at next'
      cases next'
      exact absurd link (plain _)
    | link next' link' rest =>
      rw [next] at next'
      cases next'
      rw [link] at link'
      cases link'
      obtain ⟨rfl, rfl⟩ := ih rest
      exact ⟨rfl, rfl⟩

theorem append (first : Follows t p xs n q) (second : Follows t q ys m r) :
    Follows t p (xs ++ ys) (n + m) r := by
  induction first with
  | done => rwa [List.nil_append, Nat.zero_add]
  | enter next plain _ ih => exact .enter next plain (ih second)
  | link next link _ ih =>
    have later := ih second
    rw [List.append_assoc] at later
    rw [Nat.add_right_comm]
    exact .link next link later

theorem exists_of_append (follows : Follows t p (xs ++ ys) n r) :
    ∃ k m q, n = k + m ∧ Follows t p xs k q ∧ Follows t q ys m r := by
  generalize whole : xs ++ ys = names at follows
  induction follows generalizing xs with
  | done =>
    obtain ⟨rfl, rfl⟩ := List.append_eq_nil_iff.mp whole
    exact ⟨0, 0, _, rfl, .done, .done⟩
  | enter next plain rest ih =>
    cases xs with
    | nil =>
      rw [List.nil_append] at whole
      exact ⟨0, _, _, (Nat.zero_add _).symm, .done, whole ▸ .enter next plain rest⟩
    | cons x xs =>
      cases whole
      obtain ⟨k, m, q, rfl, first, second⟩ := ih rfl
      exact ⟨k, m, q, rfl, .enter next plain first, second⟩
  | link next link rest ih =>
    cases xs with
    | nil =>
      rw [List.nil_append] at whole
      exact ⟨0, _, _, (Nat.zero_add _).symm, .done, whole ▸ .link next link rest⟩
    | cons x xs =>
      cases whole
      obtain ⟨k, m, q, rfl, first, second⟩ := ih (List.append_assoc ..)
      exact ⟨k + 1, m, q, Nat.add_right_comm .., .link next link first, second⟩

theorem walk_eq (follows : Follows t p names n q) {links : Nat} (few : n ≤ links) :
    walk t links p names = .ok ⟨q, links - n⟩ := by
  induction follows generalizing links with
  | done => cases links <;> rfl
  | enter next plain _ ih =>
    rw [walk_cons, next, ok_bind]
    split
    · next path link => exact absurd link (plain path)
    · exact ih few
  | link next link _ ih =>
    obtain ⟨links, rfl⟩ := Nat.exists_eq_add_of_le' (Nat.le_trans (Nat.le_add_left 1 _) few)
    rw [walk_cons, next, ok_bind, link, Nat.add_sub_add_right]
    exact ih (Nat.le_of_succ_le_succ few)

end Follows

theorem exists_follows {links : Nat} {r : Reached} (walked : walk t links p names = .ok r) :
    ∃ n, n + r.links = links ∧ Follows t p names n r.place := by
  induction links generalizing p names with
  | zero =>
    induction names generalizing p with
    | nil =>
      cases walked
      exact ⟨0, rfl, .done⟩
    | cons name names ih =>
      rw [walk_cons] at walked
      obtain ⟨next, found, walked⟩ := bind_eq_ok.mp walked
      split at walked
      · cases walked
      · next plain =>
        obtain ⟨n, all, rest⟩ := ih walked
        exact ⟨n, all, .enter found plain rest⟩
  | succ links fewer =>
    induction names generalizing p with
    | nil =>
      cases walked
      exact ⟨0, Nat.zero_add _, .done⟩
    | cons name names ih =>
      rw [walk_cons] at walked
      obtain ⟨next, found, walked⟩ := bind_eq_ok.mp walked
      split at walked
      · next path link =>
        obtain ⟨n, rfl, rest⟩ := fewer walked
        exact ⟨n + 1, Nat.add_right_comm .., .link found link rest⟩
      · next plain =>
        obtain ⟨n, all, rest⟩ := ih walked
        exact ⟨n, all, .enter found plain rest⟩

/-! Existing entries. -/

theorem locate_eq_ok_iff_follows : locate t here path = .ok q ↔
    checkPath path = .ok () ∧ ∃ n ≤ linkLimit, Follows t (origin here path) (steps path) n q := by
  rw [locate, bind_eq_ok]
  constructor
  · rintro ⟨_, valid, located⟩
    obtain ⟨r, walked, same⟩ := bind_eq_ok.mp located
    cases same
    obtain ⟨n, all, follows⟩ := exists_follows walked
    exact ⟨valid, n, Nat.le.intro all, follows⟩
  · rintro ⟨valid, n, few, follows⟩
    exact ⟨(), valid, bind_eq_ok.mpr ⟨_, follows.walk_eq few, rfl⟩⟩

theorem locate_mono (keeps : Keeps t u) (found : locate t here path = .ok q) :
    locate u here path = .ok q := by
  obtain ⟨valid, n, few, follows⟩ := locate_eq_ok_iff_follows.mp found
  exact locate_eq_ok_iff_follows.mpr ⟨valid, n, few, follows.mono keeps⟩

theorem has_eq_true_iff :
    has t here path = true ↔ ∃ q, locate t here path = .ok q ∧ t.find? q ≠ none := by
  rw [has, lookup?, Option.isSome_iff_ne_none]
  cases locate t here path with
  | error f => exact ⟨fun absent => absurd rfl absent, fun ⟨_, failed, _⟩ => nomatch failed⟩
  | ok p => exact ⟨fun present => ⟨p, rfl, present⟩, fun ⟨_, same, present⟩ => Except.ok.inj same ▸ present⟩

theorem isDirectory_eq_true_iff : isDirectory t here path = true ↔
    ∃ q, locate t here path = .ok q ∧ t.find? q = some .directory := by
  rw [isDirectory, decide_eq_true_iff, lookup?]
  cases locate t here path with
  | error f => exact ⟨nofun, fun ⟨_, failed, _⟩ => nomatch failed⟩
  | ok p => exact ⟨fun found => ⟨p, rfl, found⟩, fun ⟨_, same, found⟩ => Except.ok.inj same ▸ found⟩

theorem has_mono (keeps : Keeps t u) (present : has t here path = true) : has u here path = true := by
  obtain ⟨q, found, there⟩ := has_eq_true_iff.mp present
  exact has_eq_true_iff.mpr ⟨q, locate_mono keeps found, keeps.toExtends.entries q there⟩

theorem isDirectory_mono (keeps : Keeps t u) (inside : isDirectory t here path = true) :
    isDirectory u here path = true := by
  obtain ⟨q, found, there⟩ := isDirectory_eq_true_iff.mp inside
  exact isDirectory_eq_true_iff.mpr ⟨q, locate_mono keeps found, keeps.directory there⟩

/-! Names in directories. -/

/-- A path leads through so many links to a directory, in which its last name may be that of an entry. -/
structure Points (t : FileTree) (here : Location) (path : String) (n : Nat) (parent : Location) (name : String) :
    Prop where
  valid : checkPath path = .ok ()
  leads : ∃ front, Path.parts path = front ++ [name] ∧ Follows t (origin here path) front n parent
  inside : t.find? parent = some .directory
  named : name ≠ "." ∧ name ≠ ".."
  short : name.utf8ByteSize ≤ nameLimit

namespace Points

variable {parent : Location} {name : String}

theorem mono (keeps : Keeps t u) (points : Points t here path n parent name) :
    Points u here path n parent name := by
  obtain ⟨valid, ⟨front, parts, follows⟩, inside, named, short⟩ := points
  exact ⟨valid, ⟨front, parts, follows.mono keeps⟩, keeps.directory inside, named, short⟩

theorem place?_eq (points : Points t here path n parent name) (slash : Bool) :
    Target.place? ⟨parent, some name, slash⟩ = some (parent ++ [name]) :=
  if_neg (by simpa using points.named)

theorem targetWithin_eq (points : Points t here path n parent name) {links : Nat} (few : n ≤ links) :
    targetWithin t links here path = .ok (⟨parent, some name, Path.endsInSlash path⟩, links - n) := by
  obtain ⟨valid, ⟨front, parts, follows⟩, inside, named, short⟩ := points
  have inside := (FileTree.isDirectory_iff t _).mpr inside
  have short := Nat.not_lt_of_le short
  simp only [targetWithin, Target.check, valid, parts, List.dropLast_concat, follows.walk_eq few,
    List.getLast?_concat, ok_bind, inside, short]
  rfl

theorem target_eq (points : Points t here path n parent name) (few : n ≤ linkLimit) :
    target t here path = .ok ⟨parent, some name, Path.endsInSlash path⟩ := by
  rw [target, points.targetWithin_eq few]
  rfl

/-- Where a path leads, it leads by its last name. -/
theorem exists_follows_name (points : Points t here path n parent name)
    (follows : Follows t (origin here path) (steps path) m q) :
    ∃ k, Follows t parent (name :: if Path.endsInSlash path then ["."] else []) k q := by
  obtain ⟨-, ⟨front, parts, leads⟩, -⟩ := points
  rw [steps, parts, List.append_assoc, List.singleton_append] at follows
  obtain ⟨l, k, r, -, before, last⟩ := follows.exists_of_append
  obtain ⟨-, rfl⟩ := leads.unique before
  exact ⟨k, last⟩

theorem eq_of_child (points : Points t here path n parent name) (entered : child t parent name = .ok q) :
    q = parent ++ [name] := by
  rw [← (child_eq_ok_iff.mp entered).2, go_of_ne parent points.named.1 points.named.2]

theorem child_eq (points : Points t here path n parent name) (present : t.find? (parent ++ [name]) ≠ none) :
    child t parent name = .ok (parent ++ [name]) :=
  child_eq_ok_iff.mpr ⟨⟨points.inside, .inr (.inr ⟨points.short, present⟩)⟩,
    go_of_ne parent points.named.1 points.named.2⟩

end Points

theorem Target.check_eq_ok_iff {x : Target} : x.check t = .ok () ↔
    t.find? x.parent = some .directory ∧ ∀ name, x.name? = some name → name.utf8ByteSize ≤ nameLimit := by
  rw [Target.check, ← FileTree.isDirectory_iff]
  cases t.isDirectory x.parent with
  | false => exact ⟨nofun, nofun⟩
  | true =>
    cases x.name? with
    | none => exact ⟨fun _ => ⟨rfl, nofun⟩, fun _ => rfl⟩
    | some name =>
      by_cases long : nameLimit < name.utf8ByteSize
      · simp [long, Nat.not_le_of_lt long]
      · simp [long, Nat.le_of_not_lt long, pure, Except.pure]

theorem Target.check_ne_notFound {x : Target} : x.check t ≠ .error .notFound := by
  intro failed
  rw [Target.check] at failed
  split at failed
  · cases failed
  · split at failed
    · split at failed <;> cases failed
    · cases failed

theorem points_of_targetWithin {links left : Nat} {x : Target}
    (found : targetWithin t links here path = .ok (x, left)) (placed : x.place? = some q) :
    ∃ n parent name, n + left = links ∧ x = ⟨parent, some name, Path.endsInSlash path⟩ ∧
      q = parent ++ [name] ∧ Points t here path n parent name := by
  obtain ⟨_, valid, found⟩ := bind_eq_ok.mp found
  obtain ⟨r, walked, found⟩ := bind_eq_ok.mp found
  obtain ⟨_, checked, found⟩ := bind_eq_ok.mp found
  cases found
  obtain ⟨n, all, follows⟩ := exists_follows walked
  obtain ⟨inside, short⟩ := Target.check_eq_ok_iff.mp checked
  rcases List.eq_nil_or_concat (Path.parts path) with nameless | ⟨front, name, parts⟩
  · rw [nameless] at placed
    cases placed
  · rw [List.concat_eq_append] at parts
    rw [parts, List.dropLast_concat] at follows
    simp only [parts, List.getLast?_concat, Target.place?] at placed short ⊢
    split at placed
    · cases placed
    · next named =>
      cases placed
      exact ⟨n, r.place, name, all, rfl, rfl, valid, ⟨front, parts, follows⟩, inside, by simpa using named,
        short name rfl⟩

theorem points_of_target {x : Target} (found : target t here path = .ok x) (placed : x.place? = some q) :
    ∃ n ≤ linkLimit, ∃ parent name, x = ⟨parent, some name, Path.endsInSlash path⟩ ∧ q = parent ++ [name] ∧
      Points t here path n parent name := by
  obtain ⟨⟨x, left⟩, found, same⟩ := bind_eq_ok.mp found
  cases same
  obtain ⟨n, parent, name, all, points⟩ := points_of_targetWithin found placed
  exact ⟨n, Nat.le.intro all, parent, name, points⟩

theorem points_of_vacant (free : vacant t here path = .ok q) :
    ∃ n ≤ linkLimit, ∃ parent name, q = parent ++ [name] ∧ t.find? q = none ∧
      Points t here path n parent name := by
  obtain ⟨x, found, free⟩ := bind_eq_ok.mp free
  split at free
  · cases free
  · next p placed =>
    split at free
    · cases free
    · next absent =>
      cases free
      obtain ⟨n, few, parent, name, -, rfl, points⟩ := points_of_target found placed
      exact ⟨n, few, parent, name, rfl, by simpa using absent, points⟩

/-- There is nothing to make where a path leads to something. -/
theorem vacant_ne_ok (found : locate t here path = .ok r) : vacant t here path ≠ .ok q := by
  intro free
  obtain ⟨_, -, parent, name, rfl, absent, points⟩ := points_of_vacant free
  obtain ⟨-, n, -, follows⟩ := locate_eq_ok_iff_follows.mp found
  obtain ⟨m, last⟩ := points.exists_follows_name follows
  have entered : ∃ next, child t parent name = .ok next := by
    cases last with
    | enter next => exact ⟨_, next⟩
    | link next => exact ⟨_, next⟩
  obtain ⟨next, entered⟩ := entered
  obtain ⟨⟨-, dot | dots | ⟨-, present⟩⟩, -⟩ := child_eq_ok_iff.mp entered
  · exact points.named.1 dot
  · exact points.named.2 dots
  · exact present absent

/-- A path leads to the directory that is put where it points to. -/
theorem locate_of_put (points : Points t here path n p name) (few : n ≤ linkLimit) (keeps : Keeps t u)
    (made : u.find? (p ++ [name]) = some .directory) : locate u here path = .ok (p ++ [name]) := by
  have points' := points.mono keeps
  have entered := points'.child_eq (made ▸ Option.some_ne_none _)
  obtain ⟨valid, ⟨front, parts, follows⟩, -⟩ := points'
  have plain (path : String) : u.find? (p ++ [name]) ≠ some (.link path) := by
    rw [made]
    nofun
  have slash : Follows u (p ++ [name]) (if Path.endsInSlash path then ["."] else []) 0 (p ++ [name]) := by
    split
    · have stays : child u (p ++ [name]) "." = .ok (p ++ [name]) :=
        child_eq_ok_iff.mpr ⟨⟨made, .inl rfl⟩, go_dot _⟩
      exact .enter stays plain .done
    · exact .done
  refine locate_eq_ok_iff_follows.mpr ⟨valid, n, few, ?_⟩
  rw [steps, parts]
  exact (follows.append (.enter entered plain .done)).append slash

/-! Writing. -/

/-- What is written to a path goes to a place, through so many links. -/
inductive Writes (t : FileTree) : Nat → Location → String → Location → Prop
  | here {here parent : Location} {path name : String} {n : Nat}
      (points : Points t here path n parent name) (plain : Path.endsInSlash path = false)
      (free : t.find? (parent ++ [name]) = none ∨
        ∃ bytes isProgram, t.find? (parent ++ [name]) = some (.file bytes isProgram)) :
      Writes t n here path (parent ++ [name])
  | link {here parent q : Location} {path name destination : String} {n m : Nat}
      (points : Points t here path n parent name) (plain : Path.endsInSlash path = false)
      (link : t.find? (parent ++ [name]) = some (.link destination))
      (rest : Writes t m parent destination q) : Writes t (n + (m + 1)) here path q

theorem writableWithin_of_points {parent : Location} {name : String} {links : Nat}
    (points : Points t here path n parent name) (few : n ≤ links) (plain : Path.endsInSlash path = false) :
    writableWithin t links here path =
      match t.find? (parent ++ [name]) with
      | some .directory => .error .isADirectory
      | some (.link destination) =>
        if 0 < links - n then writableWithin t (links - n - 1) parent destination else .error .tooManyLinks
      | _ => .ok (parent ++ [name]) := by
  rw [writableWithin]
  split
  · next failed =>
    rw [points.targetWithin_eq few] at failed
    cases failed
  · next found =>
    rw [points.targetWithin_eq few] at found
    cases found
    rw [points.place?_eq, plain]
    rfl

theorem points_of_writableWithin {links : Nat} (writes : writableWithin t links here path = .ok q) :
    ∃ n ≤ links, ∃ parent name, Points t here path n parent name ∧ Path.endsInSlash path = false := by
  rw [writableWithin] at writes
  split at writes
  · cases writes
  · next x left found =>
    split at writes
    · cases writes
    · next p placed =>
      obtain ⟨n, parent, name, all, rfl, rfl, points⟩ := points_of_targetWithin found placed
      refine ⟨n, Nat.le.intro all, parent, name, points, ?_⟩
      cases plain : Path.endsInSlash path with
      | false => rfl
      | true =>
        rw [plain] at writes
        cases writes

theorem exists_writes {links : Nat} (writes : writableWithin t links here path = .ok q) :
    ∃ n ≤ links, Writes t n here path q := by
  induction links using Nat.strongRecOn generalizing here path with
  | ind links ih =>
    obtain ⟨n, few, parent, name, points, plain⟩ := points_of_writableWithin writes
    rw [writableWithin_of_points points few plain] at writes
    cases found : t.find? (parent ++ [name]) with
    | none =>
      rw [found] at writes
      cases writes
      exact ⟨n, few, .here points plain (.inl found)⟩
    | some e =>
      rw [found] at writes
      cases e with
      | file bytes isProgram =>
        cases writes
        exact ⟨n, few, .here points plain (.inr ⟨bytes, isProgram, found⟩)⟩
      | directory => cases writes
      | link destination =>
        dsimp only at writes
        split at writes
        · next more =>
          obtain ⟨m, few', rest⟩ := ih (links - n - 1) (by omega) writes
          exact ⟨n + (m + 1), by omega, .link points plain found rest⟩
        · cases writes

namespace Writes

theorem writableWithin_eq (writes : Writes t n here path q) {links : Nat} (few : n ≤ links) :
    writableWithin t links here path = .ok q := by
  induction writes generalizing links with
  | here points plain free =>
    rw [writableWithin_of_points points few plain]
    rcases free with absent | ⟨bytes, isProgram, found⟩
    · rw [absent]
    · rw [found]
  | link points plain link _ ih =>
    rw [writableWithin_of_points points (by omega) plain, link]
    dsimp only
    rw [if_pos (by omega)]
    exact ih (by omega)

theorem place_ne_nil (writes : Writes t n here path q) : q ≠ [] := by
  induction writes with
  | here => exact List.append_ne_nil_of_right_ne_nil _ (List.cons_ne_nil _ _)
  | link _ _ _ _ ih => exact ih

theorem free (writes : Writes t n here path q) :
    t.find? q = none ∨ ∃ bytes isProgram, t.find? q = some (.file bytes isProgram) := by
  induction writes with
  | here _ _ free => exact free
  | link _ _ _ _ ih => exact ih

/-- Once a file is where something is written, it is written there again. -/
theorem mono (keeps : Keeps t u) (writes : Writes t n here path q) {bytes : ByteArray}
    {isProgram : Bool} (found : u.find? q = some (.file bytes isProgram)) :
    Writes u n here path q := by
  induction writes with
  | here points plain _ => exact .here (points.mono keeps) plain (.inr ⟨bytes, isProgram, found⟩)
  | link points plain link _ ih =>
    exact .link (points.mono keeps) plain (keeps.link_iff.mpr link) (ih found)

/-- What is written to a path goes where the path leads. -/
theorem eq_of_follows (writes : Writes t n here path q)
    (follows : Follows t (origin here path) (steps path) m r) : r = q := by
  induction writes generalizing m with
  | here points plain free =>
    obtain ⟨m, last⟩ := points.exists_follows_name follows
    rw [plain] at last
    cases last with
    | enter next _ rest =>
      cases rest
      exact points.eq_of_child next
    | link next link =>
      rw [points.eq_of_child next] at link
      rcases free with absent | ⟨bytes, isProgram, found⟩
      · rw [link] at absent
        cases absent
      · rw [link] at found
        cases found
  | link points plain link _ ih =>
    obtain ⟨m, last⟩ := points.exists_follows_name follows
    rw [plain] at last
    cases last with
    | enter next other =>
      rw [points.eq_of_child next] at other
      exact absurd link (other _)
    | link next link' rest =>
      rw [points.eq_of_child next, link] at link'
      cases link'
      rw [if_neg Bool.false_ne_true, List.append_nil] at rest
      exact ih rest

theorem checkPath_eq (writes : Writes t n here path q) : checkPath path = .ok () := by
  cases writes with
  | here points => exact points.valid
  | link points => exact points.valid

/-- A path leads to the file that is written when something is written to it, through the same links. -/
theorem follows (writes : Writes t n here path q) {bytes : ByteArray} {isProgram : Bool}
    (found : t.find? q = some (.file bytes isProgram)) :
    Follows t (origin here path) (steps path) n q := by
  induction writes with
  | here points plain _ =>
    have entered := points.child_eq (found ▸ Option.some_ne_none _)
    obtain ⟨-, ⟨front, parts, follows⟩, -⟩ := points
    rw [steps, plain, parts]
    refine (follows.append (.enter entered (fun path link => ?_) .done)).append .done
    rw [found] at link
    cases link
  | link points plain link _ ih =>
    have entered := points.child_eq (link ▸ Option.some_ne_none _)
    obtain ⟨-, ⟨front, parts, follows⟩, -⟩ := points
    have rest := ih found
    rw [steps, plain, parts]
    rw [← List.append_nil (steps _)] at rest
    exact (follows.append (.link entered link rest)).append .done

end Writes

theorem writable_eq_ok_iff_writes :
    writable t here path = .ok q ↔ ∃ n ≤ linkLimit, Writes t n here path q :=
  ⟨exists_writes, fun ⟨_, few, writes⟩ => writes.writableWithin_eq few⟩

/-- A path leads to the file that is written when something is written to it. -/
theorem locate_of_writable (writes : writable t here path = .ok q) {bytes : ByteArray} {isProgram : Bool}
    (found : t.find? q = some (.file bytes isProgram)) : locate t here path = .ok q := by
  obtain ⟨n, few, writes⟩ := writable_eq_ok_iff_writes.mp writes
  exact locate_eq_ok_iff_follows.mpr ⟨writes.checkPath_eq, n, few, writes.follows found⟩

end Files

end Scaffold
