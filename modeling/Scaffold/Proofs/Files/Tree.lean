import Scaffold.Files.Tree

/-! What is found in a tree after a change, and trees in which everything is in a directory. -/
namespace Scaffold.FileTree

open Std

/-! What is found. -/

@[simp] theorem find?_nil (t : FileTree) : t.find? [] = some .directory := if_pos rfl

theorem find?_of_ne_nil (t : FileTree) {place : Location} (inside : place ≠ []) :
    t.find? place = t.entries[place]? := if_neg inside

theorem find?_empty (place : Location) :
    FileTree.empty.find? place = if place = [] then some .directory else none := by
  by_cases root : place = []
  · rw [root]
    rfl
  · rw [find?_of_ne_nil _ root, if_neg root]
    exact ExtTreeMap.getElem?_empty

theorem isDirectory_iff (t : FileTree) (place : Location) :
    t.isDirectory place = true ↔ t.find? place = some .directory := decide_eq_true_iff

theorem entries_put (t : FileTree) (place : Location) (e : Entry) (q : Location) :
    (t.put place e).entries[q]? = if q = place then some e else t.entries[q]? := by
  rw [put, ExtTreeMap.getElem?_insert]
  simp only [Std.compare_eq_iff_eq, @eq_comm _ place]

theorem entries_eraseAll (t : FileTree) (place q : Location) :
    (t.eraseAll place).entries[q]? = if place <+: q then none else t.entries[q]? := by
  rw [eraseAll, ExtTreeMap.getElem?_filter]
  simp only [ExtTreeMap.getKey_eq, Option.pfilter_eq_filter]
  by_cases below : place <+: q
  · rw [if_pos below]
    cases t.entries[q]? <;> simp [below]
  · have apart : place.isPrefixOf q = false := by simpa [← List.isPrefixOf_iff_prefix] using below
    rw [if_neg below]
    cases t.entries[q]? <;> simp [apart]

theorem find?_put (t : FileTree) {place : Location} (inside : place ≠ []) (e : Entry)
    (q : Location) : (t.put place e).find? q = if q = place then some e else t.find? q := by
  by_cases root : q = []
  · rw [root, find?_nil, find?_nil, if_neg (Ne.symm inside)]
  · rw [find?_of_ne_nil _ root, find?_of_ne_nil _ root, entries_put]

theorem find?_erase (t : FileTree) {place : Location} (inside : place ≠ []) (q : Location) :
    (t.erase place).find? q = if q = place then none else t.find? q := by
  by_cases root : q = []
  · rw [root, find?_nil, find?_nil, if_neg (Ne.symm inside)]
  · rw [find?_of_ne_nil _ root, find?_of_ne_nil _ root, erase, ExtTreeMap.getElem?_erase]
    simp only [Std.compare_eq_iff_eq, @eq_comm _ place]

/-! Moving. -/

section Moving

variable {f : Location → Location} {moved : List (Location × Entry)} (t : FileTree)

theorem entries_foldl_put_of_ne {q : Location} (others : ∀ x ∈ moved, f x.1 ≠ q) :
    (moved.foldl (fun t (p, e) => t.put (f p) e) t).entries[q]? = t.entries[q]? := by
  induction moved generalizing t with
  | nil => rfl
  | cons x moved ih =>
    rw [List.foldl_cons, ih _ fun y member => others y (List.mem_cons_of_mem x member), entries_put,
      if_neg (Ne.symm (others x List.mem_cons_self))]

theorem entries_foldl_put_of_mem (distinct : moved.Pairwise fun x y => f x.1 ≠ f y.1)
    {p : Location} {e : Entry} (member : (p, e) ∈ moved) :
    (moved.foldl (fun t (p, e) => t.put (f p) e) t).entries[f p]? = some e := by
  induction moved generalizing t with
  | nil => cases member
  | cons x moved ih =>
    obtain ⟨others, distinct⟩ := List.pairwise_cons.mp distinct
    rw [List.foldl_cons]
    rcases List.mem_cons.mp member with rfl | member
    · rw [entries_foldl_put_of_ne _ fun y member => Ne.symm (others y member), entries_put, if_pos rfl]
    · exact ih _ distinct member

end Moving

/-- After a move, what was at the source is at the destination, and nothing else is at either. -/
theorem find?_moveAll (t : FileTree) {a b : Location} (inside : a ≠ []) (inside' : b ≠ [])
    (q : Location) : (t.moveAll a b).find? q =
      if b <+: q then t.find? (a ++ q.drop b.length) else if a <+: q then none else t.find? q := by
  by_cases root : q = []
  · rw [root, find?_nil, find?_nil, if_neg (by simpa using inside'), if_neg (by simpa using inside)]
  have mem (p : Location) (e : Entry) :
      (p, e) ∈ t.entries.toList.filter (fun (p, _) => a.isPrefixOf p) ↔
        t.entries[p]? = some e ∧ a <+: p := by
    rw [List.mem_filter, ExtTreeMap.mem_toList_iff_getElem?_eq_some, List.isPrefixOf_iff_prefix]
  rw [find?_of_ne_nil _ root, find?_of_ne_nil t root, moveAll]
  dsimp only
  -- Each entry goes to a place of its own.
  have distinct : (t.entries.toList.filter fun (p, _) => a.isPrefixOf p).Pairwise fun x y =>
      b ++ x.1.drop a.length ≠ b ++ y.1.drop a.length := by
    refine (ExtTreeMap.distinct_keys_toList.filter _).imp_of_mem ?_
    intro x y left right apart same
    obtain ⟨-, s, first⟩ := (mem x.1 x.2).mp left
    obtain ⟨-, u, second⟩ := (mem y.1 y.2).mp right
    rw [← first, ← second, List.drop_left, List.drop_left, List.append_cancel_left_eq] at same
    exact apart (Std.compare_eq_iff_eq.mpr (by rw [← first, ← second, same]))
  by_cases arrived : b <+: q
  · obtain ⟨rest, rfl⟩ := arrived
    rw [if_pos (List.prefix_append b rest), List.drop_left,
      find?_of_ne_nil t (List.append_ne_nil_of_left_ne_nil inside rest)]
    cases found : t.entries[a ++ rest]? with
    | some e =>
      have member := (mem (a ++ rest) e).mpr ⟨found, List.prefix_append a rest⟩
      have put := entries_foldl_put_of_mem ((t.eraseAll b).eraseAll a)
        (f := fun p => b ++ p.drop a.length) distinct member
      rwa [List.drop_left] at put
    | none =>
      rw [entries_foldl_put_of_ne (f := fun p => b ++ p.drop a.length), entries_eraseAll,
        entries_eraseAll, if_pos (List.prefix_append b rest), ite_self]
      intro x member same
      obtain ⟨present, s, first⟩ := (mem x.1 x.2).mp member
      rw [← first, List.drop_left, List.append_cancel_left_eq] at same
      rw [← first, same, found] at present
      cases present
  · rw [if_neg arrived, entries_foldl_put_of_ne (f := fun p => b ++ p.drop a.length),
      entries_eraseAll, entries_eraseAll, if_neg arrived]
    intro x _ same
    exact arrived ⟨_, same⟩

/-! Trees of directories and files. -/

def Unlinked (t : FileTree) : Prop := ∀ place path, t.find? place ≠ some (.link path)

/-- There are no links, and what is in the tree is in a directory. -/
structure Proper (t : FileTree) : Prop where
  unlinked : t.Unlinked
  rooted : ∀ place name, t.find? (place ++ [name]) ≠ none → t.find? place = some .directory

/-- What is in the tree is in a directory. -/
def Rooted (t : FileTree) : Prop := ∀ place name, t.find? (place ++ [name]) ≠ none → t.find? place = some .directory

/-- The entries of a tree are in another one, and its directories are directories there. -/
structure Extends (t u : FileTree) : Prop where
  entries : ∀ place, t.find? place ≠ none → u.find? place ≠ none
  directories : ∀ place, t.find? place = some .directory → u.find? place = some .directory

/-- A tree is as before, except that there may be directories at some places where nothing was. -/
def Grows (places : List Location) (t u : FileTree) : Prop :=
  ∀ place, u.find? place = t.find? place ∨
    t.find? place = none ∧ u.find? place = some .directory ∧ place ∈ places

namespace Grows

variable {places more : List Location} {t u v : FileTree}

theorem refl (places : List Location) (t : FileTree) : Grows places t t := fun _ => .inl rfl

theorem trans (first : Grows places t u) (second : Grows places u v) : Grows places t v := by
  intro place
  rcases second place with same | ⟨absent, made, listed⟩
  · rw [same]
    exact first place
  · rcases first place with same | ⟨-, present, -⟩
    · exact .inr ⟨same ▸ absent, made, listed⟩
    · rw [absent] at present
      cases present

theorem mono (grows : Grows places t u) (inside : places ⊆ more) : Grows more t u := by
  intro place
  rcases grows place with same | ⟨absent, made, listed⟩
  · exact .inl same
  · exact .inr ⟨absent, made, inside listed⟩

/-- What was there is still there, and it is the same. -/
theorem kept (grows : Grows places t u) {place : Location} {e : Entry}
    (present : t.find? place = some e) : u.find? place = some e := by
  rcases grows place with same | ⟨absent, -, -⟩
  · rw [same, present]
  · rw [present] at absent
    cases absent

/-- Files and what is missing have been so before. -/
theorem find?_eq (grows : Grows places t u) {place : Location}
    (other : u.find? place ≠ some .directory) : t.find? place = u.find? place := by
  rcases grows place with same | ⟨-, made, -⟩
  · exact same.symm
  · exact absurd made other

theorem toExtends (grows : Grows places t u) : Extends t u where
  entries place present := by
    obtain ⟨e, found⟩ := Option.ne_none_iff_exists'.mp present
    rw [grows.kept found]
    exact Option.some_ne_none e
  directories _ found := grows.kept found

end Grows

namespace Extends

variable {t u v : FileTree}

/-- A file may be put in a directory, at a place where there is none. -/
theorem put_file (t : FileTree) {place : Location} (inside : place ≠ [])
    (free : t.find? place ≠ some .directory) (bytes : ByteArray) (isProgram : Bool) :
    Extends t (t.put place (.file bytes isProgram)) where
  entries q present := by
    rw [find?_put t inside]
    split
    · exact Option.some_ne_none _
    · exact present
  directories q found := by
    rw [find?_put t inside, if_neg]
    · exact found
    · rintro rfl
      exact free found

end Extends

namespace Proper

variable {t : FileTree} {place : Location} {name : String}

theorem empty : FileTree.empty.Proper where
  unlinked place path := by
    rw [find?_empty]
    split <;> nofun
  rooted place name present := by
    rw [find?_empty, if_neg (by simp)] at present
    exact absurd rfl present

/-- The directory that an entry is in is a directory, and so is that of the root. -/
theorem find?_dropLast (proper : t.Proper) (present : t.find? place ≠ none) :
    t.find? place.dropLast = some .directory := by
  rcases List.eq_nil_or_concat place with rfl | ⟨front, name, rfl⟩
  · simp
  · rw [List.concat_eq_append] at present ⊢
    rw [List.dropLast_concat]
    exact proper.rooted front name present

/-- What an entry is in is there. -/
theorem find?_of_begins (proper : t.Proper) {place q : Location} (begins : place <+: q)
    (present : t.find? q ≠ none) : t.find? place ≠ none := by
  obtain ⟨rest, rfl⟩ := begins
  induction rest generalizing place with
  | nil => rwa [List.append_nil] at present
  | cons name rest ih =>
    have next : t.find? (place ++ [name]) ≠ none := ih (by simpa using present)
    rw [proper.rooted place name next]
    exact Option.some_ne_none _

theorem put (proper : t.Proper) {e : Entry} (linkless : ∀ path, e ≠ .link path)
    (parent : t.find? place = some .directory)
    (free : t.find? (place ++ [name]) = some .directory → e = .directory) :
    (t.put (place ++ [name]) e).Proper where
  unlinked q path := by
    rw [find?_put t (by simp)]
    split
    · intro same
      exact linkless path (Option.some.inj same)
    · exact proper.unlinked q path
  rooted q last present := by
    rw [find?_put t (by simp)] at present ⊢
    have above : t.find? q = some .directory := by
      split at present
      · next same =>
        obtain ⟨rfl, -⟩ := List.append_inj' same rfl
        exact parent
      · exact proper.rooted q last present
    split
    · next same => rw [free (same ▸ above)]
    · exact above

/-- A tree of one file. -/
theorem single (name : String) (bytes : ByteArray) (isProgram : Bool) :
    (FileTree.empty.put [name] (.file bytes isProgram)).Proper := by
  rw [← List.nil_append [name]]
  exact Proper.empty.put nofun rfl nofun

end Proper

end Scaffold.FileTree
