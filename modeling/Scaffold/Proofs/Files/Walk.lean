import Scaffold.Proofs.Files.Links
import Scaffold.Proofs.Files.Path

/-! Where paths lead in a tree without links: which entries they find, and which they may make. -/
namespace Scaffold.Files

open FileTree

/-! Going through names. -/

/-- The place that a path means, whether or not there is anything. -/
def place (directory : Location) (path : String) : Location :=
  (Path.parts path).foldl go (origin directory path)

/-- Names lead on from a place, one after another. -/
def Leads (t : FileTree) : Location → List String → Prop
  | _, [] => True
  | p, name :: names => Enters t p name ∧ Leads t (go p name) names

theorem leads_append {t : FileTree} {p : Location} {xs ys : List String} :
    Leads t p (xs ++ ys) ↔ Leads t p xs ∧ Leads t (xs.foldl go p) ys := by
  induction xs generalizing p with
  | nil => exact (true_and _).to_iff.symm
  | cons x xs ih => simp only [List.cons_append, Leads, List.foldl_cons, ih, and_assoc]

theorem Leads.mono {t u : FileTree} {p : Location} {names : List String} (more : Extends t u)
    (leads : Leads t p names) : Leads u p names := by
  induction names generalizing p with
  | nil => trivial
  | cons name names ih => exact ⟨leads.1.mono more, ih leads.2⟩

section Walking

variable {t : FileTree} (unlinked : t.Unlinked) {p q : Location} {names : List String}

include unlinked

theorem follows_iff {n : Nat} :
    Follows t p names n q ↔ n = 0 ∧ Leads t p names ∧ names.foldl go p = q := by
  constructor
  · intro follows
    induction follows with
    | done => exact ⟨rfl, trivial, rfl⟩
    | enter next _ _ ih =>
      obtain ⟨enters, rfl⟩ := child_eq_ok_iff.mp next
      exact ⟨ih.1, ⟨enters, ih.2.1⟩, ih.2.2⟩
    | link _ link => exact absurd link (unlinked _ _)
  · rintro ⟨rfl, leads, rfl⟩
    induction names generalizing p with
    | nil => exact .done
    | cons name names ih =>
      exact .enter (child_eq_ok_iff.mpr ⟨leads.1, rfl⟩) (unlinked _) (ih leads.2)

/-- Without links, a walk goes through the names and through nothing else. -/
theorem walk_eq_ok_iff {links : Nat} {r : Reached} :
    walk t links p names = .ok r ↔ Leads t p names ∧ (⟨names.foldl go p, links⟩ : Reached) = r := by
  constructor
  · intro walked
    obtain ⟨n, rfl, follows⟩ := exists_follows walked
    obtain ⟨rfl, leads, last⟩ := (follows_iff unlinked).mp follows
    rw [last, Nat.zero_add]
    exact ⟨leads, rfl⟩
  · rintro ⟨leads, rfl⟩
    exact ((follows_iff unlinked).mpr ⟨rfl, leads, rfl⟩).walk_eq (Nat.zero_le links)

end Walking

/-! Existing entries. -/

theorem checkPath_eq_ok_iff {path : String} : checkPath path = .ok () ↔
    '\x00' ∉ path.toList ∧ path ≠ "" ∧ path.utf8ByteSize < pathLimit := by
  unfold checkPath
  by_cases nul : '\x00' ∈ path.toList
  · simp [nul, throw_bind]
  · by_cases empty : path = ""
    · simp [empty, throw_bind]
    · by_cases long : pathLimit ≤ path.utf8ByteSize
      · simp [nul, empty, long]
      · simp [nul, empty, long, pure, Except.pure, Nat.lt_of_not_le long]

theorem checkPath_of_begins {path start : String} (begins : start.toList <+: path.toList)
    (filled : start ≠ "") (valid : checkPath path = .ok ()) : checkPath start = .ok () := by
  obtain ⟨nul, -, short⟩ := checkPath_eq_ok_iff.mp valid
  refine checkPath_eq_ok_iff.mpr ⟨fun member => nul (begins.subset member), filled, ?_⟩
  obtain ⟨rest, whole⟩ := begins
  have longer : path = start ++ String.ofList rest := by
    rw [← String.toList_inj, String.toList_append, String.toList_ofList, whole]
  rw [longer, String.utf8ByteSize_append] at short
  omega

/-- Every part of a path leads on. -/
def Located (t : FileTree) (directory : Location) (path : String) : Prop :=
  checkPath path = .ok () ∧ Leads t (origin directory path) (steps path)

theorem Located.mono {t u : FileTree} {directory : Location} {path : String} (more : Extends t u)
    (located : Located t directory path) : Located u directory path :=
  ⟨located.1, located.2.mono more⟩

theorem foldl_go_steps (directory : Location) (path : String) :
    (steps path).foldl go (origin directory path) = place directory path := by
  rw [steps, List.foldl_append]
  split <;> rfl

section Unlinked

variable {t : FileTree} (unlinked : t.Unlinked) {here q : Location}
  {path : String}

include unlinked

theorem locate_eq_ok_iff : locate t here path = .ok q ↔ Located t here path ∧ place here path = q := by
  rw [locate_eq_ok_iff_follows]
  simp only [follows_iff unlinked, foldl_go_steps, Located]
  constructor
  · rintro ⟨valid, _, _, _, leads, last⟩
    exact ⟨⟨valid, leads⟩, last⟩
  · rintro ⟨⟨valid, leads⟩, last⟩
    exact ⟨valid, 0, Nat.zero_le _, rfl, leads, last⟩

theorem lookup?_eq_some_iff {e : Entry} : lookup? t here path = some e ↔
    Located t here path ∧ t.find? (place here path) = some e := by
  unfold lookup?
  split
  · next q found =>
    obtain ⟨located, rfl⟩ := (locate_eq_ok_iff unlinked).mp found
    exact (and_iff_right located).symm
  · next f failed =>
    refine ⟨nofun, fun ⟨located, _⟩ => ?_⟩
    rw [(locate_eq_ok_iff unlinked).mpr ⟨located, rfl⟩] at failed
    cases failed

theorem has_iff : has t here path = true ↔
    Located t here path ∧ t.find? (place here path) ≠ none := by
  rw [has, Option.isSome_iff_exists]
  simp only [lookup?_eq_some_iff unlinked, exists_and_left, Option.ne_none_iff_exists']

theorem isDirectory_iff : isDirectory t here path = true ↔
    Located t here path ∧ t.find? (place here path) = some .directory := by
  rw [isDirectory, decide_eq_true_iff, lookup?_eq_some_iff unlinked]

end Unlinked

/-! Names in directories. -/

/-- A path leads to a directory, in which its last name may be that of an entry. -/
structure Aimed (t : FileTree) (directory : Location) (path : String) (front : List String)
    (name : String) : Prop where
  valid : checkPath path = .ok ()
  parts : Path.parts path = front ++ [name]
  leads : Leads t (origin directory path) front
  parent : t.find? (front.foldl go (origin directory path)) = some .directory
  named : name ≠ "." ∧ name ≠ ".."
  short : name.utf8ByteSize ≤ nameLimit

section Aiming

variable {t u : FileTree} {here : Location} {path name : String} {front : List String}

namespace Aimed

theorem place_eq (aimed : Aimed t here path front name) :
    place here path = front.foldl go (origin here path) ++ [name] := by
  rw [place, aimed.parts, List.foldl_append]
  exact go_of_ne _ aimed.named.1 aimed.named.2

theorem place_ne_nil (aimed : Aimed t here path front name) : place here path ≠ [] := by
  rw [aimed.place_eq]
  exact List.append_ne_nil_of_right_ne_nil _ (List.cons_ne_nil _ _)

theorem proper_put (aimed : Aimed t here path front name) (proper : t.Proper)
    (free : t.find? (place here path) ≠ some .directory) (bytes : ByteArray) (isProgram : Bool) :
    (t.put (place here path) (.file bytes isProgram)).Proper := by
  rw [aimed.place_eq] at free ⊢
  exact proper.put nofun aimed.parent fun directory => absurd directory free

theorem located (aimed : Aimed t here path front name) (plain : Path.endsInSlash path = false)
    (present : t.find? (place here path) ≠ none) : Located t here path := by
  refine ⟨aimed.valid, ?_⟩
  rw [steps, plain, aimed.parts]
  rw [aimed.place_eq] at present
  exact leads_append.mpr
    ⟨leads_append.mpr ⟨aimed.leads, ⟨aimed.parent, .inr (.inr ⟨aimed.short, present⟩)⟩, trivial⟩, trivial⟩

/-- Where a path leads to no entry, none is in the place that it means. -/
theorem find?_eq_none (aimed : Aimed t here path front name) (plain : Path.endsInSlash path = false)
    (unlinked : t.Unlinked) (absent : has t here path = false) :
    t.find? (place here path) = none := by
  cases found : t.find? (place here path) with
  | none => rfl
  | some e =>
    have present : t.find? (place here path) ≠ none := found ▸ Option.some_ne_none e
    rw [(has_iff unlinked).mpr ⟨aimed.located plain present, present⟩] at absent
    cases absent

/-- A path with a longer last name means another place. -/
theorem place_append_ne (aimed : Aimed t here path front name) (plain : Path.endsInSlash path = false)
    {ending : String} (undivided : '/' ∉ ending.toList) (filled : ending ≠ "") {front' : List String}
    {name' : String} (aimed' : Aimed t here (path ++ ending) front' name') :
    place here (path ++ ending) ≠ place here path := by
  have named := (checkPath_eq_ok_iff.mp aimed.valid).2.1
  obtain ⟨first, last, parts, longer⟩ := Path.names_lengthen
    (fun empty => named (String.toList_eq_nil_iff.mp empty)) fun slash => by
      rw [(Path.endsInSlash_iff path).mpr slash] at plain
      cases plain
  have longer := longer ending.toList undivided
  rw [← String.toList_append, ← Path.parts_eq, aimed'.parts] at longer
  rw [← Path.parts_eq, aimed.parts] at parts
  obtain ⟨rfl, same⟩ := List.append_inj' parts rfl
  obtain rfl := List.singleton_inj.mp same
  obtain ⟨rfl, lengthened⟩ := List.append_inj' longer rfl
  obtain rfl := List.singleton_inj.mp lengthened
  have begins : path.toList <+: (path ++ ending).toList := by
    rw [String.toList_append]
    exact List.prefix_append _ _
  rw [aimed.place_eq, aimed'.place_eq, origin, origin, Path.isAbsolute_of_begins begins named]
  intro equal
  have letters := congrArg String.toList (List.singleton_inj.mp (List.append_cancel_left equal))
  rw [String.toList_append, String.toList_ofList, List.append_right_eq_self] at letters
  exact filled (String.toList_eq_nil_iff.mp letters)

end Aimed

variable (unlinked : t.Unlinked)

include unlinked

theorem points_iff {n : Nat} {parent : Location} : Points t here path n parent name ↔
    n = 0 ∧ ∃ front, Aimed t here path front name ∧ front.foldl go (origin here path) = parent := by
  constructor
  · rintro ⟨valid, ⟨front, parts, follows⟩, inside, named, short⟩
    obtain ⟨rfl, leads, rfl⟩ := (follows_iff unlinked).mp follows
    exact ⟨rfl, front, ⟨valid, parts, leads, inside, named, short⟩, rfl⟩
  · rintro ⟨rfl, front, ⟨valid, parts, leads, inside, named, short⟩, rfl⟩
    exact ⟨valid, ⟨front, parts, (follows_iff unlinked).mpr ⟨rfl, leads, rfl⟩⟩, inside, named, short⟩

theorem aimed_of_target {x : Target} {q : Location} (found : target t here path = .ok x)
    (placed : x.place? = some q) : x.endsInSlash = Path.endsInSlash path ∧
      (∃ front name, Aimed t here path front name) ∧ place here path = q := by
  obtain ⟨_, -, parent, name, rfl, rfl, points⟩ := points_of_target found placed
  obtain ⟨-, front, aimed, rfl⟩ := (points_iff unlinked).mp points
  exact ⟨rfl, ⟨front, name, aimed⟩, aimed.place_eq⟩

theorem Located.target_ne_notFound (located : Located t here path) :
    target t here path ≠ .error .notFound := by
  obtain ⟨valid, leads⟩ := located
  have leads : Leads t (origin here path) (Path.parts path).dropLast := by
    obtain ⟨last, whole⟩ := List.dropLast_prefix (Path.parts path)
    rw [steps, ← whole] at leads
    exact (leads_append.mp (leads_append.mp leads).1).1
  have walked : walk t linkLimit (origin here path) (Path.parts path).dropLast = .ok _ :=
    (walk_eq_ok_iff unlinked).mpr ⟨leads, rfl⟩
  intro failed
  simp only [target, targetWithin, valid, walked, ok_bind] at failed
  rcases checked : Target.check t _ with f | _
  · rw [checked] at failed
    cases failed
    exact Target.check_ne_notFound checked
  · rw [checked] at failed
    cases failed

theorem writable_eq_ok_iff {q : Location} : writable t here path = .ok q ↔
    (∃ front name, Aimed t here path front name) ∧ Path.endsInSlash path = false ∧
      t.find? (place here path) ≠ some .directory ∧ place here path = q := by
  rw [writable_eq_ok_iff_writes]
  constructor
  · rintro ⟨n, -, writes⟩
    cases writes with
    | here points plain free =>
      obtain ⟨-, front, aimed, rfl⟩ := (points_iff unlinked).mp points
      rw [← aimed.place_eq] at free ⊢
      refine ⟨⟨front, _, aimed⟩, plain, ?_, rfl⟩
      rcases free with absent | ⟨bytes, isProgram, found⟩
      · rw [absent]
        nofun
      · rw [found]
        nofun
    | link _ _ link => exact absurd link (unlinked _ _)
  · rintro ⟨⟨front, name, aimed⟩, plain, free, rfl⟩
    have points := (points_iff unlinked).mpr ⟨rfl, front, aimed, rfl⟩
    rw [aimed.place_eq] at free ⊢
    refine ⟨0, Nat.zero_le _, .here points plain ?_⟩
    cases found : t.find? (front.foldl go (origin here path) ++ [name]) with
    | none => exact .inl rfl
    | some e =>
      cases e with
      | file bytes isProgram => exact .inr ⟨bytes, isProgram, rfl⟩
      | directory => exact absurd found free
      | link p => exact absurd found (unlinked _ _)

theorem vacant_eq_ok {q : Location} (free : vacant t here path = .ok q) :
    (∃ front name, Aimed t here path front name) ∧ t.find? (place here path) = none ∧
      place here path = q := by
  obtain ⟨_, -, parent, name, rfl, absent, points⟩ := points_of_vacant free
  obtain ⟨-, front, aimed, rfl⟩ := (points_iff unlinked).mp points
  rw [← aimed.place_eq] at absent ⊢
  exact ⟨⟨front, name, aimed⟩, absent, rfl⟩

end Aiming

/-- A file is where the last name of a path says, and there it may be written. -/
theorem exists_aimed {t : FileTree} (proper : t.Proper) {here : Location} {path : String}
    {bytes : ByteArray} {isProgram : Bool} (located : Located t here path)
    (found : t.find? (place here path) = some (.file bytes isProgram)) :
    (∃ front name, Aimed t here path front name) ∧ Path.endsInSlash path = false := by
  obtain ⟨valid, leads⟩ := located
  have plain : Path.endsInSlash path = false := by
    cases slash : Path.endsInSlash path with
    | false => rfl
    | true =>
      rw [steps, slash] at leads
      have inside := (leads_append.mp leads).2.1.1
      rw [← place, found] at inside
      cases inside
  rw [steps, plain] at leads
  have leads := (leads_append.mp leads).1
  have filled : path.toList ≠ [] := by
    intro empty
    rw [String.toList_eq_nil_iff.mp empty] at valid
    cases valid
  obtain ⟨front, name, parts, -⟩ := Path.names_lengthen filled fun slash => by
    rw [(Path.endsInSlash_iff path).mpr slash] at plain
    cases plain
  rw [← Path.parts_eq] at parts
  rw [parts] at leads
  obtain ⟨leads, ⟨parent, entered⟩, -⟩ := leads_append.mp leads
  rw [place, parts, List.foldl_append] at found
  -- Dots lead to directories only.
  have named : name ≠ "." ∧ name ≠ ".." := by
    constructor
    · rintro rfl
      rw [List.foldl_cons, go_dot, List.foldl_nil, parent] at found
      cases found
    · rintro rfl
      have above := proper.find?_dropLast (parent ▸ Option.some_ne_none _)
      exact absurd (above.symm.trans found) (by simp)
  have short := ((entered.resolve_left named.1).resolve_left named.2).1
  exact ⟨⟨front, name, valid, parts, leads, parent, named, short⟩, plain⟩

end Scaffold.Files
