import Scaffold.Proofs.Files.Making
import Scaffold.Proofs.Run.Rerun

/-! Lists of directories that are made one after another. Nothing that is there is changed, a list that has
been made is not made again, and in another order it comes to the same, if it can be made. -/
namespace Scaffold.Run

open Files FileTree

variable {w w' : World} {r : Except Error Unit} {path : String} {paths : List String}

/-! One directory of a list. -/

/-- What is said about a directory that is there. -/
def alreadyThere (path : String) : Event := .said .note s!"Directory {path} already exists"

/-- A world with the files that are left when a directory has been made, or has not, or was there. -/
def listed (path : String) (u : FileTree) (w : World) : World :=
  (w.withFiles u).append (if isDirectory w.files w.directory path then [alreadyThere path] else [])

/-- A directory that is there might be made as well, since that does nothing. -/
theorem outcome_makeListed_of_run {s : Except SystemFault Unit} {u : FileTree}
    (ran : (Files.makeDirectories w.directory path).run w.files = (s, u)) :
    (makeListed path).outcome w = (s.mapError (.filesystem path), listed path u w) := by
  rw [outcome_makeListed, listed]
  split
  · next there =>
    rw [run_makeDirectories_of_isDirectory _ there] at ran
    cases ran
    rfl
  · rw [outcome_onFiles_of_run ran, World.append_nil]

theorem outcome_cons_of_ok {u : FileTree}
    (made : (Files.makeDirectories w.directory path).run w.files = (.ok (), u)) (paths : List String) :
    (makeDirectories (path :: paths)).outcome w = (makeDirectories paths).outcome (listed path u w) := by
  show (makeListed path >>= fun _ => makeDirectories paths).outcome w = _
  rw [outcome_bind, outcome_makeListed_of_run made]
  rfl

theorem outcome_cons_of_error {f : SystemFault} {u : FileTree}
    (failed : (Files.makeDirectories w.directory path).run w.files = (.error f, u)) (paths : List String) :
    (makeDirectories (path :: paths)).outcome w = (.error (.filesystem path f), listed path u w) := by
  show (makeListed path >>= fun _ => makeDirectories paths).outcome w = _
  rw [outcome_bind, outcome_makeListed_of_run failed]
  rfl

/-! Whole lists. -/

/-- What making each of the directories does to a tree, making all of them does, whether or not it
succeeds. -/
theorem files_makeDirectories {R : FileTree → FileTree → Prop} {here : Location} (refl : ∀ t, R t t)
    (trans : ∀ t u v, R t u → R u v → R t v)
    (each : ∀ path ∈ paths, ∀ t, R t ((Files.makeDirectories here path).run t).2)
    (current : w.directory = here) (done : (makeDirectories paths).outcome w = (r, w')) :
    w'.directory = here ∧ R w.files w'.files := by
  induction paths generalizing w with
  | nil =>
    cases done
    exact ⟨current, refl _⟩
  | cons path paths ih =>
    obtain ⟨first, others⟩ := List.forall_mem_cons.mp each
    have step := first w.files
    rcases ran : (Files.makeDirectories here path).run w.files with ⟨f | _, u⟩
    · rw [outcome_cons_of_error (current ▸ ran)] at done
      rw [ran] at step
      cases done
      exact ⟨current, step⟩
    · rw [outcome_cons_of_ok (current ▸ ran)] at done
      rw [ran] at step
      obtain ⟨current', rest⟩ := ih others (w := listed path u w) current done
      exact ⟨current', trans _ _ _ step rest⟩

/-- A path is listed, or it is above one that is. -/
def IsListed (paths : List String) (top : String) : Prop := ∃ path ∈ paths, Path.Above top path

theorem addsAt_of_makeDirectories (done : (makeDirectories paths).outcome w = (r, w')) :
    w'.directory = w.directory ∧ AddsAt w.directory (IsListed paths) w.files w'.files :=
  files_makeDirectories (.refl _ _) (fun _ _ _ => .trans)
    (fun path member t => (addsAt_makeAncestors w.directory path _ t).mono
      fun _ above => ⟨path, member, above⟩) rfl done

theorem proper_of_makeDirectories (proper : w.files.Proper) (done : (makeDirectories paths).outcome w = (r, w')) :
    w'.files.Proper :=
  (files_makeDirectories (R := fun t u => t.Proper → u.Proper) (fun _ => id)
    (fun _ _ _ first second proper => second (first proper))
    (fun path _ t proper => (builds_makeDirectories w.directory path t proper).1) rfl done).2 proper

theorem isDirectory_of_adds {t u : FileTree} {here : Location} (adds : Adds t u)
    (there : isDirectory t here path = true) : isDirectory u here path = true :=
  isDirectory_mono adds.toKeeps there

theorem isDirectory_of_made (named : ∀ path ∈ paths, path ≠ "")
    (done : (makeDirectories paths).outcome w = (.ok (), w')) :
    ∀ path ∈ paths, isDirectory w'.files w.directory path = true := by
  induction paths generalizing w with
  | nil => exact nofun
  | cons path paths ih =>
    obtain ⟨filled, named⟩ := List.forall_mem_cons.mp named
    rcases ran : (Files.makeDirectories w.directory path).run w.files with ⟨f | _, u⟩
    · rw [outcome_cons_of_error ran] at done
      cases done
    · rw [outcome_cons_of_ok ran] at done
      have there : isDirectory (listed path u w).files w.directory path = true :=
        isDirectory_of_makeDirectories filled ran
      obtain ⟨-, added⟩ := addsAt_of_makeDirectories done
      exact List.forall_mem_cons.mpr ⟨isDirectory_of_adds added.adds there, ih named (w := listed path u w) done⟩

theorem outcome_of_isDirectory (there : ∀ path ∈ paths, isDirectory w.files w.directory path = true) :
    (makeDirectories paths).outcome w = (.ok (), w.append (paths.map alreadyThere)) := by
  induction paths generalizing w with
  | nil => rw [List.map_nil, World.append_nil]; rfl
  | cons path paths ih =>
    obtain ⟨here, others⟩ := List.forall_mem_cons.mp there
    have noted : listed path w.files w = w.append [alreadyThere path] := by
      rw [listed, if_pos here]
      rfl
    rw [outcome_cons_of_ok (run_makeDirectories_of_isDirectory _ here), noted,
      ih (w := w.append [alreadyThere path]) others, World.append_append]
    rfl

/-- A list fails at the first path that cannot be made, and what comes behind it does not matter. -/
theorem failed_at_path {e : Error} (failed : (makeDirectories paths).outcome w = (.error e, w')) :
    ∃ before path after f w₁, paths = before ++ path :: after ∧
      (makeDirectories before).outcome w = (.ok (), w₁) ∧ e = .filesystem path f ∧
      (Files.makeDirectories w.directory path).run w₁.files = (.error f, w'.files) ∧
      ∀ rest, (makeDirectories (before ++ path :: rest)).outcome w = (.error e, w') := by
  induction paths generalizing w with
  | nil => cases failed
  | cons path paths ih =>
    rcases ran : (Files.makeDirectories w.directory path).run w.files with ⟨f | _, u⟩
    · rw [outcome_cons_of_error ran] at failed
      cases failed
      exact ⟨[], path, paths, f, w, rfl, rfl, rfl, ran, outcome_cons_of_error ran⟩
    · rw [outcome_cons_of_ok ran] at failed
      obtain ⟨before, other, after, f, w₁, rfl, done, same, last, alike⟩ := ih failed
      refine ⟨path :: before, other, after, f, w₁, rfl, ?_, same, last, fun rest => ?_⟩
      · rw [outcome_cons_of_ok ran, done]
      · rw [List.cons_append, outcome_cons_of_ok ran, alike]

/-! Other orders. -/

def EndsInDot (path : String) : Prop := (Path.parts path).getLast? = some "."

/-- A list that is there in a greater tree is made within that tree. -/
theorem within_of_makeDirectories {m : FileTree}
    (there : ∀ path ∈ paths, isDirectory m w.directory path = true) (within : Adds w.files m)
    (done : (makeDirectories paths).outcome w = (r, w')) : Adds w'.files m :=
  (files_makeDirectories (R := fun t u => Adds t m → Adds u m) (fun _ => id)
    (fun _ _ _ first second within => second (first within))
    (fun path member t => within_makeAncestors path _ t (there path member)) rfl done).2 within

/-- Two orders that are both made come to the same tree. -/
theorem files_eq_of_perm {others : List String} {v : World} (perm : others.Perm paths)
    (named : ∀ path ∈ paths, path ≠ "") (done : (makeDirectories paths).outcome w = (.ok (), w'))
    (done' : (makeDirectories others).outcome w = (.ok (), v)) : v.files = w'.files := by
  have named' : ∀ path ∈ others, path ≠ "" := fun path member => named path (perm.subset member)
  have there : ∀ path ∈ others, isDirectory w'.files w.directory path = true :=
    fun path member => isDirectory_of_made named done path (perm.subset member)
  have there' : ∀ path ∈ paths, isDirectory v.files w.directory path = true :=
    fun path member => isDirectory_of_made named' done' path (perm.symm.subset member)
  -- What each of them makes is there in the tree of the other one.
  have left := within_of_makeDirectories there (addsAt_of_makeDirectories done).2.adds done'
  have right := within_of_makeDirectories there' (addsAt_of_makeDirectories done').2.adds done
  exact left.antisymm right

/-- Without links, a list that is there in a greater tree is made unless a path ends in a dot. -/
theorem ok_or_endsInDot {m : FileTree} (proper' : m.Proper)
    (there : ∀ path ∈ paths, isDirectory m w.directory path = true) (proper : w.files.Proper)
    (within : Adds w.files m) (current : w.files.find? w.directory = some .directory) :
    (∃ w', (makeDirectories paths).outcome w = (.ok (), w')) ∨
      ∃ path ∈ paths, EndsInDot path ∧ isDirectory w.files w.directory path = false ∧
        ∃ f w', (makeDirectories paths).outcome w = (.error (.filesystem path f), w') := by
  induction paths generalizing w with
  | nil => exact .inl ⟨w, rfl⟩
  | cons path paths ih =>
    obtain ⟨here, others⟩ := List.forall_mem_cons.mp there
    have adds := adds_makeDirectories w.directory path w.files
    have built := builds_makeDirectories w.directory path w.files proper
    have inside : Adds ((Files.makeDirectories w.directory path).run w.files).2 m :=
      within_makeAncestors path _ w.files here within
    rcases ran : (Files.makeDirectories w.directory path).run w.files with ⟨f | _, u⟩
    · rw [outcome_cons_of_error ran]
      -- But for the dot it could be made, and if it were there nothing would have to be.
      refine .inr ⟨path, List.mem_cons_self, ?_, ?_, f, _, rfl⟩
      · refine Classical.byContradiction fun ending => ?_
        obtain ⟨v, made, -⟩ := exists_makeAncestors proper' (Nat.lt_succ_self _) here proper within
          current (.inl ending)
        cases ran.symm.trans made
      · refine Bool.eq_false_iff.mpr fun there => ?_
        cases ran.symm.trans (run_makeDirectories_of_isDirectory _ there)
    · rw [outcome_cons_of_ok ran]
      rw [ran] at adds built inside
      obtain ⟨w', done⟩ | ⟨other, member, ending, absent, f, w', failed⟩ :=
        ih (w := listed path u w) others built.1 inside (adds.kept current)
      · exact .inl ⟨w', done⟩
      · refine .inr ⟨other, List.mem_cons_of_mem path member, ending, ?_, f, w', failed⟩
        exact Bool.eq_false_iff.mpr fun there =>
          absurd (isDirectory_of_adds adds there) (Bool.eq_false_iff.mp absent)

/-- Making a list of directories changes nothing that is there, and what is new are directories where
listed paths lead, or paths above them. A list that has been made is there, making it again comes to a note
about each path, and any other order that is made comes to the same tree. Without links every order is
made, unless there is a path that ends in a dot and was not there. A list that is not made fails at a path,
behind which nothing is looked at. -/
theorem makeDirectories_outcome (named : ∀ path ∈ paths, path ≠ "")
    (done : (makeDirectories paths).outcome w = (r, w')) :
    Adds w.files w'.files ∧
    (∀ p : Location, w.files.entries[p]? = none → w'.files.entries[p]? ≠ none →
      ∃ top, IsListed paths top ∧ locate w'.files w.directory top = .ok p) ∧
    (r = .ok () →
      (∀ path ∈ paths, isDirectory w'.files w'.directory path = true) ∧
      (makeDirectories paths).outcome w' = (.ok (), w'.append (paths.map alreadyThere)) ∧
      ∀ others, others.Perm paths →
        (∀ v, (makeDirectories others).outcome w = (.ok (), v) → v.files = w'.files) ∧
        (w.files.Proper → w.files.find? w.directory = some .directory →
          (∃ v, (makeDirectories others).outcome w = (.ok (), v)) ∨
          ∃ path ∈ paths, EndsInDot path ∧ isDirectory w.files w.directory path = false ∧
            ∃ f v, (makeDirectories others).outcome w = (.error (.filesystem path f), v))) ∧
    ∀ e, r = .error e → ∃ before path after f w₁, paths = before ++ path :: after ∧
      (makeDirectories before).outcome w = (.ok (), w₁) ∧
      (∀ earlier ∈ before, isDirectory w'.files w'.directory earlier = true) ∧
      e = .filesystem path f ∧
      (Files.makeDirectories w.directory path).run w₁.files = (.error f, w'.files) ∧
      ∀ rest, (makeDirectories (before ++ path :: rest)).outcome w = (.error e, w') := by
  obtain ⟨here, adds, leads⟩ := addsAt_of_makeDirectories done
  refine ⟨adds, leads, ?_, ?_⟩
  · rintro rfl
    have there := isDirectory_of_made named done
    rw [← here] at there
    refine ⟨there, outcome_of_isDirectory there, fun others perm =>
      ⟨fun v done' => files_eq_of_perm perm named done done', fun proper current => ?_⟩⟩
    rw [here] at there
    refine (ok_or_endsInDot (proper_of_makeDirectories proper done)
      (fun path member => there path (perm.subset member)) proper adds current).imp_right ?_
    rintro ⟨path, member, failed⟩
    exact ⟨path, perm.subset member, failed⟩
  · rintro e rfl
    obtain ⟨before, path, after, f, w₁, rfl, made, same, failed, alike⟩ := failed_at_path done
    refine ⟨before, path, after, f, w₁, rfl, made, fun earlier member => ?_, same, failed, alike⟩
    have there := isDirectory_of_made (fun path member => named path (List.mem_append_left _ member)) made
      earlier member
    have more := adds_makeDirectories w.directory path w₁.files
    rw [failed] at more
    exact here ▸ isDirectory_of_adds more there

/-- An ancestor is listed behind what is in it, beside a file. -/
theorem makeDirectories_outcome_of_ancestor :
    let t := FileTree.empty.put ["README"] (.file "mine".toUTF8 false)
    let w : World := ⟨⟨t, [], .typed []⟩, [], fun _ => 0, FileAction.always "skip", []⟩
    let paths := ["a/b", "a"]
    (∀ path ∈ paths, path ≠ "") ∧ w.files.Proper ∧ ∃ w', (makeDirectories paths).outcome w = (.ok (), w') ∧
      w'.files.find? ["README"] = some (.file "mine".toUTF8 false) ∧
      (makeDirectories paths).outcome w' = (.ok (), w'.append (paths.map alreadyThere)) ∧
      ∃ v, (makeDirectories ["a", "a/b"]).outcome w = (.ok (), v) ∧ v.files = w'.files := by
  intro t w paths
  have proper : w.files.Proper := FileTree.Proper.single _ _ _
  have named : ∀ path ∈ paths, path ≠ "" := by decide
  have result : ((makeDirectories paths).outcome w).1 = .ok () := by decide +kernel
  have done : (makeDirectories paths).outcome w = (.ok (), ((makeDirectories paths).outcome w).2) :=
    Prod.ext result rfl
  obtain ⟨adds, -, made, -⟩ := makeDirectories_outcome named done
  obtain ⟨-, again, orders⟩ := made rfl
  obtain ⟨same, succeeds⟩ := orders ["a", "a/b"] (.swap _ _ _)
  obtain ⟨v, done'⟩ | ⟨path, member, ending, -⟩ := succeeds proper rfl
  · exact ⟨named, proper, _, done, adds.kept rfl, again, v, done', same v done'⟩
  · have undotted : ∀ path ∈ paths, (Path.parts path).getLast? ≠ some "." := by decide +kernel
    exact absurd ending (undotted path member)

/-- A path that ends in a dot can be made only behind the directory that it means, and a path through a link
only behind the directory that the link means. -/
theorem makeDirectories_in_other_order :
    let w (t : FileTree) : World := ⟨⟨t, [], .typed []⟩, [], fun _ => 0, FileAction.always "skip", []⟩
    let linked := FileTree.empty.put ["l"] (.link "d")
    (["x/.", "x"].Perm ["x", "x/."] ∧ FileTree.empty.Proper ∧
      ((makeDirectories ["x", "x/."]).outcome (w .empty)).1 = .ok () ∧
      ((makeDirectories ["x/.", "x"]).outcome (w .empty)).1 = .error (.filesystem "x/." .notFound)) ∧
    ["l/x", "d"].Perm ["d", "l/x"] ∧
      ((makeDirectories ["d", "l/x"]).outcome (w linked)).1 = .ok () ∧
      ((makeDirectories ["l/x", "d"]).outcome (w linked)).1 = .error (.filesystem "l/x" .exists) :=
  ⟨⟨.swap _ _ _, FileTree.Proper.empty, by decide +kernel, by decide +kernel⟩,
    .swap _ _ _, by decide +kernel, by decide +kernel⟩

end Scaffold.Run
