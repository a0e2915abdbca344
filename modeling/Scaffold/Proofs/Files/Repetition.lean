import Scaffold.Proofs.Files.Directories

/-! Doing to a tree what has been done to it before. The places that were written first are found again,
however much has been added in between. -/
namespace Scaffold

open Files

namespace FileTree

variable {t t' t'' u v v' v'' : FileTree} {p : Location}

/-! New directories. -/

/-- There may be new directories where nothing was. -/
def Adds (t u : FileTree) : Prop :=
  ∀ p : Location, u.entries[p]? = t.entries[p]? ∨
    t.entries[p]? = none ∧ u.entries[p]? = some .directory

namespace Adds

theorem refl (t : FileTree) : Adds t t := fun _ => .inl rfl

theorem trans (first : Adds t u) (second : Adds u v) : Adds t v := by
  intro p
  rcases second p with same | ⟨absent, made⟩
  · rw [same]
    exact first p
  · rcases first p with same | ⟨-, present⟩
    · exact .inr ⟨same ▸ absent, made⟩
    · rw [absent] at present
      cases present

theorem toKeeps (adds : Adds t u) : Keeps t u := by
  refine ⟨fun p e found => ⟨e, ?_, .refl e⟩, fun p path found => ?_⟩
  · rcases adds p with same | ⟨absent, -⟩
    · rw [same, found]
    · rw [found] at absent
      cases absent
  · rcases adds p with same | ⟨-, made⟩
    · rw [← same, found]
    · rw [found] at made
      cases made

end Adds

/-! Changes made twice. -/

/-- Of two changes, at first and later on, the second one comes at each place to what the first one came
to, or it does nothing where the first one did nothing or found nothing. -/
structure Repeats (t t' v v' : FileTree) : Prop where
  first : Keeps t t'
  second : Keeps v v'
  settles : ∀ p : Location, v'.entries[p]? = t'.entries[p]? ∨
    v'.entries[p]? = v.entries[p]? ∧ (t'.entries[p]? = t.entries[p]? ∨ t.entries[p]? = none)

theorem Keeps.entries_eq_none (keeps : Keeps t u) (absent : u.entries[p]? = none) :
    t.entries[p]? = none := by
  cases found : t.entries[p]? with
  | none => rfl
  | some e =>
    obtain ⟨e', found', -⟩ := keeps.entries p e found
    rw [absent] at found'
    cases found'

namespace Repeats

theorem refl (t v : FileTree) : Repeats t t v v := ⟨.refl t, .refl v, fun _ => .inr ⟨rfl, .inl rfl⟩⟩

/-- What has only added entries need not do anything later. -/
theorem of_new (keeps : Keeps t t')
    (new : ∀ p : Location, t'.entries[p]? = t.entries[p]? ∨ t.entries[p]? = none) (v : FileTree) :
    Repeats t t' v v :=
  ⟨keeps, .refl v, fun p => .inr ⟨rfl, new p⟩⟩

theorem of_adds (adds : Adds t t') (v : FileTree) : Repeats t t' v v :=
  .of_new adds.toKeeps (fun p => (adds p).imp_right And.left) v

theorem trans (one : Repeats t t' v v') (two : Repeats t' t'' v' v'') : Repeats t t'' v v'' := by
  refine ⟨one.first.trans two.first, one.second.trans two.second, fun p => ?_⟩
  rcases two.settles p with same | ⟨kept, same | absent⟩
  · exact .inl same
  · rw [kept, same]
    exact one.settles p
  · -- Where the second change found nothing, nothing has been before.
    have before := one.first.entries_eq_none absent
    rcases one.settles p with same | ⟨kept', -⟩
    · have before' := one.second.entries_eq_none (same.trans absent)
      exact .inr ⟨by rw [kept, same, absent, before'], .inr before⟩
    · exact .inr ⟨kept.trans kept', .inr before⟩

/-- What is done again at once changes nothing. -/
theorem eq (repeats : Repeats t t' t' v') : v' = t' := by
  have same : v'.entries = t'.entries := by
    ext1 p
    rcases repeats.settles p with same | ⟨kept, -⟩
    · exact same
    · exact kept
  cases v'
  cases t'
  exact congrArg FileTree.mk same

end Repeats

theorem entries_putBytes (inside : p ≠ []) (bytes : ByteArray) : ∃ isProgram,
    (t.putBytes p bytes).find? p = some (.file bytes isProgram) ∧
      ∀ q : Location, (t.putBytes p bytes).entries[q]? =
        if q = p then some (.file bytes isProgram) else t.entries[q]? := by
  rw [putBytes]
  refine ⟨_, ?_, entries_put t p _⟩
  rw [find?_put t inside, if_pos rfl]

end FileTree

namespace Files

open FileTree

variable {t u v : FileTree} {here q : Location} {path : String} {bytes : ByteArray}

/-! Directories. -/

theorem adds_makeDirectory (here : Location) (path : String) : Acts Adds (makeDirectory here path) := by
  intro t
  rw [run_makeDirectory]
  cases free : vacant t here path with
  | error f => exact .refl t
  | ok p =>
    obtain ⟨-, -, parent, name, rfl, absent, -⟩ := points_of_vacant free
    rw [find?_of_ne_nil _ (by simp)] at absent
    intro q
    dsimp only
    rw [entries_put]
    split
    · next same => exact .inr ⟨same ▸ absent, rfl⟩
    · exact .inl rfl

theorem adds_makeAncestors (here : Location) (path : String) (fuel : Nat) :
    Acts Adds (makeAncestors here path fuel) :=
  acts_makeAncestors here (R := fun _ => Adds) (fun _ => .refl) (fun _ _ _ _ => .trans)
    (adds_makeDirectory here) (fun _ _ _ _ _ _ => id) path fuel

theorem adds_makeDirectories (here : Location) (path : String) : Acts Adds (makeDirectories here path) :=
  adds_makeAncestors here path _

theorem isDirectory_of_makeDirectory (made : (makeDirectory here path).run t = (.ok (), u)) :
    isDirectory u here path = true := by
  rw [run_makeDirectory] at made
  cases free : vacant t here path with
  | error f =>
    rw [free] at made
    cases made
  | ok p =>
    rw [free] at made
    cases made
    obtain ⟨_, few, parent, name, rfl, absent, points⟩ := points_of_vacant free
    have inside : parent ++ [name] ≠ [] := by simp
    have found : (t.put (parent ++ [name]) .directory).find? (parent ++ [name]) = some .directory := by
      rw [find?_put t inside, if_pos rfl]
    rw [find?_of_ne_nil _ inside] at absent
    exact isDirectory_eq_true_iff.mpr ⟨_, locate_of_put points few (.put_new nofun absent) found, found⟩

theorem isDirectory_of_ensureDirectory (made : (ensureDirectory here path).run t = (.ok (), u)) :
    isDirectory u here path = true := by
  rw [ensureDirectory, run_tryCatch] at made
  rcases first : (makeDirectory here path).run t with ⟨f | _, t'⟩
  · rw [first] at made
    change (if !isDirectory t' here path then throw f else pure () : Action Unit).run t' = _ at made
    cases inside : isDirectory t' here path with
    | false =>
      rw [inside] at made
      cases made
    | true =>
      rw [inside] at made
      cases made
      exact inside
  · rw [first] at made
    cases made
    exact isDirectory_of_makeDirectory first

theorem isDirectory_of_makeDirectories (named : path ≠ "")
    (made : (makeDirectories here path).run t = (.ok (), u)) : isDirectory u here path = true := by
  rw [makeDirectories, makeAncestors, if_neg (by simpa using named), run_tryCatch] at made
  rcases first : (ensureDirectory here path).run t with ⟨f | _, t'⟩
  · rw [first] at made
    dsimp only at made
    split at made
    · split at made
      · rw [run_bind] at made
        split at made
        · exact isDirectory_of_ensureDirectory made
        · cases made
      · cases made
    · cases made
  · rw [first] at made
    cases made
    exact isDirectory_of_ensureDirectory first

/-- Directories that have been made are not made again, whatever has been added since. -/
theorem makeDirectories_again (made : (makeDirectories here path).run t = (.ok (), u))
    (keeps : Keeps u v) : (makeDirectories here path).run v = (.ok (), v) := by
  by_cases named : path = ""
  · rw [named]
    rfl
  · exact run_makeDirectories_of_isDirectory here
      (isDirectory_mono keeps (isDirectory_of_makeDirectories named made))

/-! Files. -/

theorem writable_of_write (wrote : (write here path bytes).run t = (.ok (), u)) :
    ∃ q, writable t here path = .ok q ∧ u = t.putBytes q bytes := by
  rw [write, run_get_bind, run_liftM_bind] at wrote
  cases writes : writable t here path with
  | error f =>
    rw [writes] at wrote
    cases wrote
  | ok q =>
    rw [writes] at wrote
    cases wrote
    exact ⟨q, rfl, rfl⟩

theorem run_write (writes : writable t here path = .ok q) :
    (write here path bytes).run t = (.ok (), t.putBytes q bytes) := by
  rw [write, run_get_bind, run_liftM_bind, writes]
  rfl

/-- A file that has been written is written again at the same place. -/
theorem write_again (writes : writable t here path = .ok q) (keeps : Keeps (t.putBytes q bytes) v) :
    writable v here path = .ok q ∧ Repeats t (t.putBytes q bytes) v (v.putBytes q bytes) := by
  obtain ⟨n, few, writes⟩ := writable_eq_ok_iff_writes.mp writes
  have inside := writes.place_ne_nil
  obtain ⟨isProgram, found, entries⟩ := entries_putBytes inside bytes
  obtain ⟨old, found'⟩ := keeps.file found
  have kept : Keeps t (t.putBytes q bytes) := .putBytes inside writes.free bytes
  refine ⟨writable_eq_ok_iff_writes.mpr ⟨n, few, writes.mono (kept.trans keeps) found'⟩, kept,
    .putBytes inside (.inr ⟨old, isProgram, found'⟩) bytes, fun p => ?_⟩
  have whole : v.putBytes q bytes = v.put q (.file bytes isProgram) := by
    rw [putBytes, found']
  rw [whole, entries_put, entries]
  by_cases same : p = q
  · exact .inl (by rw [if_pos same, if_pos same])
  · exact .inr ⟨if_neg same, .inl (if_neg same)⟩

/-- A file that was not there before it was written need not be written again. -/
theorem repeats_of_absent (writes : writable t here path = .ok q) (absent : ¬ has t here path = true) :
    Repeats t (t.putBytes q bytes) v v := by
  obtain ⟨_, -, way⟩ := writable_eq_ok_iff_writes.mp writes
  have inside := way.place_ne_nil
  have free := way.free
  have kept : Keeps t (t.putBytes q bytes) := .putBytes inside free bytes
  obtain ⟨isProgram, -, entries⟩ := entries_putBytes inside bytes
  refine .of_new kept (fun p => ?_) v
  rw [entries]
  by_cases same : p = q
  · rcases free with nothing | ⟨old, isProgram, found⟩
    · rw [find?_of_ne_nil _ inside] at nothing
      exact .inr (same ▸ nothing)
    · have located := locate_of_writable writes found
      exact absurd (has_eq_true_iff.mpr ⟨q, located, found ▸ Option.some_ne_none _⟩) absent
  · exact .inl (if_neg same)

end Files

end Scaffold
