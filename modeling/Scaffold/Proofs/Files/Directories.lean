import Scaffold.Proofs.Files.Walk

/-! Making the directories on the way of a path: nothing else happens to the tree, whether or not it
succeeds. -/
namespace Scaffold.Files

open FileTree

/-! The way of a path. -/

/-- The places that names lead to from a place, one after another. -/
def stops : Location → List String → List Location
  | _, [] => []
  | p, name :: names => go p name :: stops (go p name) names

/-- The parts of a path that are no dots. -/
def turns (path : String) : List String := (Path.parts path).filter (· ≠ ".")

/-- The places on the way of a path, which ends in what the path means. -/
def wayTo (directory : Location) (path : String) : List Location :=
  stops (origin directory path) (turns path)

/-- The places on the way of a path before its end. -/
def ancestors (directory : Location) (path : String) : List Location :=
  stops (origin directory path) (turns path).dropLast

theorem stops_append (p : Location) (xs ys : List String) :
    stops p (xs ++ ys) = stops p xs ++ stops (xs.foldl go p) ys := by
  induction xs generalizing p with
  | nil => rfl
  | cons x xs ih => rw [List.cons_append, stops, stops, ih, List.foldl_cons, List.cons_append]

theorem foldl_go_filter (names : List String) (p : Location) :
    (names.filter (· ≠ ".")).foldl go p = names.foldl go p := by
  induction names generalizing p with
  | nil => rfl
  | cons name names ih =>
    by_cases dot : name = "."
    · rw [List.filter_cons_of_neg (by simp [dot]), ih, List.foldl_cons, dot, go_dot]
    · rw [List.filter_cons_of_pos (by simp [dot]), List.foldl_cons, List.foldl_cons, ih]

section Ways

variable {path parent : String} (here : Location)

theorem turns_eq_append (found : Path.parent? path = some parent) (filled : parent ≠ "") :
    ∃ name, turns path = turns parent ++ [name] := by
  obtain ⟨before, name, after, parts, dots, named, -⟩ := Path.parent?_eq_some found
  have dropped (names : List String) (inside : names ⊆ before ++ after) :
      names.filter (· ≠ ".") = [] :=
    List.filter_eq_nil_iff.mpr fun n member => by simp [dots n (inside member)]
  refine ⟨name, ?_⟩
  rw [turns, parts, List.filter_append, List.filter_append, dropped before (List.subset_append_left _ _),
    List.filter_cons_of_pos (by simpa using named filled), dropped after (List.subset_append_right _ _)]
  rfl

theorem origin_parent (found : Path.parent? path = some parent) (filled : parent ≠ "") :
    origin here parent = origin here path := by
  obtain ⟨-, -, -, -, -, -, begins⟩ := Path.parent?_eq_some found
  rw [origin, origin, Path.isAbsolute_of_begins begins filled]

theorem ancestors_eq_wayTo (found : Path.parent? path = some parent) (filled : parent ≠ "") :
    ancestors here path = wayTo here parent := by
  obtain ⟨name, longer⟩ := turns_eq_append found filled
  rw [ancestors, wayTo, longer, List.dropLast_concat, origin_parent here found filled]

theorem ancestors_subset_wayTo (path : String) : ancestors here path ⊆ wayTo here path := by
  rcases List.eq_nil_or_concat (turns path) with none | ⟨front, name, turns⟩
  · rw [ancestors, wayTo, none]
    exact List.Subset.refl _
  · rw [ancestors, wayTo, turns, List.concat_eq_append, List.dropLast_concat, stops_append]
    exact List.subset_append_left _ _

/-- What a path goes through is a directory. -/
theorem Located.above {t : FileTree} {here : Location} (located : Located t here path)
    (found : Path.parent? path = some parent) (filled : parent ≠ "") :
    Located t here parent ∧ t.find? (place here parent) = some .directory := by
  have same := origin_parent here found filled
  obtain ⟨before, name, after, parts, -, -, begins⟩ := Path.parent?_eq_some found
  obtain ⟨valid, leads⟩ := located
  rw [steps, parts] at leads
  obtain ⟨leads, more⟩ := leads_append.mp (leads_append.mp leads).1
  have inside : t.find? (place here parent) = some .directory := by
    rw [place, same]
    cases before with
    | nil => exact more.1.1
    | cons => exact more.1.1
  refine ⟨⟨checkPath_of_begins begins filled valid, ?_⟩, inside⟩
  rw [steps, same]
  refine leads_append.mpr ⟨leads, ?_⟩
  rw [place, same] at inside
  split
  · exact ⟨⟨inside, .inl rfl⟩, trivial⟩
  · trivial

/-- Names lead on from directories only. -/
theorem Follows.inside {t : FileTree} {p q : Location} {name : String} {names : List String} {n : Nat}
    (follows : Follows t p (name :: names) n q) : t.find? p = some .directory := by
  cases follows with
  | enter next => exact (child_eq_ok_iff.mp next).1.1
  | link next => exact (child_eq_ok_iff.mp next).1.1

/-- What a path goes through before it leads to something is a directory. -/
theorem isDirectory_parent {t : FileTree} {here q : Location} (located : locate t here path = .ok q)
    (found : Path.parent? path = some parent) (filled : parent ≠ "") :
    isDirectory t here parent = true := by
  have same := origin_parent here found filled
  obtain ⟨before, name, after, parts, -, -, begins⟩ := Path.parent?_eq_some found
  obtain ⟨valid, n, few, follows⟩ := locate_eq_ok_iff_follows.mp located
  rw [steps, parts] at follows
  obtain ⟨k, l, r, whole, follows, -⟩ := follows.exists_of_append
  obtain ⟨k', l', p, whole', leads, more⟩ := follows.exists_of_append
  have inside : t.find? p = some .directory := by
    cases before with
    | nil => exact more.inside
    | cons => exact more.inside
  have slash : Follows t p (if Path.endsInSlash parent then ["."] else []) 0 p := by
    split
    · refine .enter (child_eq_ok_iff.mpr ⟨⟨inside, .inl rfl⟩, go_dot p⟩) (fun path link => ?_) .done
      rw [inside] at link
      cases link
    · exact .done
  refine isDirectory_eq_true_iff.mpr ⟨p, locate_eq_ok_iff_follows.mpr ⟨?_, k', by omega, ?_⟩, inside⟩
  · exact checkPath_of_begins begins filled valid
  · rw [steps, same]
    exact leads.append slash

theorem Aimed.place_mem_wayTo {t : FileTree} {here : Location} {front : List String} {name : String}
    (aimed : Aimed t here path front name) : place here path ∈ wayTo here path := by
  have turns : turns path = front.filter (· ≠ ".") ++ [name] := by
    rw [turns, aimed.parts, List.filter_append, List.filter_cons_of_pos (by simpa using aimed.named.1)]
    rfl
  rw [wayTo, turns, stops_append, foldl_go_filter, aimed.place_eq]
  exact List.mem_append_right _ (go_of_ne _ aimed.named.1 aimed.named.2 ▸ List.mem_cons_self)

end Ways

/-! Ways that do not go back. -/

section Forward

variable {t g : FileTree} {here p : Location} {path : String} {names : List String}

theorem begins_foldl_go (forward : ".." ∉ names) (p : Location) : p <+: names.foldl go p := by
  induction names generalizing p with
  | nil => exact List.prefix_refl p
  | cons name names ih =>
    rw [List.mem_cons, not_or] at forward
    refine List.IsPrefix.trans ?_ (ih forward.2 (go p name))
    unfold go
    split
    · exact List.prefix_refl p
    · rw [if_neg (Ne.symm forward.1)]
      exact List.prefix_append p [name]

theorem stops_begin (forward : ".." ∉ names) {q : Location} (stop : q ∈ stops p names) :
    q <+: names.foldl go p := by
  induction names generalizing p with
  | nil => cases stop
  | cons name names ih =>
    rw [List.mem_cons, not_or] at forward
    rcases List.mem_cons.mp stop with rfl | later
    · exact begins_foldl_go forward.2 _
    · exact ih forward.2 later

/-- A path that never goes back has its ancestors above the place that it means. -/
theorem ancestors_above (forward : ".." ∉ Path.parts path) {q : Location}
    (ancestor : q ∈ ancestors here path) : q <+: place here path ∧ q ≠ place here path := by
  have forward : ".." ∉ turns path := fun member => forward (List.mem_filter.mp member).1
  have whole : place here path = (turns path).foldl go (origin here path) := (foldl_go_filter _ _).symm
  rw [ancestors] at ancestor
  rcases List.eq_nil_or_concat (turns path) with none | ⟨front, name, parts⟩
  · rw [none] at ancestor
    cases ancestor
  · rw [List.concat_eq_append] at parts
    have named : name ≠ "." ∧ name ≠ ".." := by
      have member : name ∈ turns path := parts ▸ List.mem_append_right front List.mem_cons_self
      refine ⟨by simpa using (List.mem_filter.mp member).2, ?_⟩
      rintro rfl
      exact forward member
    rw [parts, List.dropLast_concat] at ancestor
    rw [parts, List.mem_append, not_or] at forward
    rw [whole, parts, List.foldl_append, List.foldl_cons, List.foldl_nil, go_of_ne _ named.1 named.2]
    have begins := stops_begin forward.1 ancestor
    refine ⟨begins.trans (List.prefix_append _ _), ?_⟩
    rintro rfl
    exact absurd begins.length_le (by simp)

example : ancestors ["work"] "a/./x/b" = [["work", "a"], ["work", "a", "x"]] := by decide +kernel

/-- Names that never go back lead to what is there, with or without more directories. -/
theorem Leads.of_present (proper : t.Proper) {places : List Location} (grows : Grows places t g)
    (forward : ".." ∉ names) (leads : Leads g p names) (present : t.find? (names.foldl go p) ≠ none) :
    Leads t p names := by
  induction names generalizing p with
  | nil => trivial
  | cons name names ih =>
    rw [List.mem_cons, not_or] at forward
    have next := proper.find?_of_begins (begins_foldl_go forward.2 (go p name)) present
    obtain ⟨⟨inside, enters⟩, leads⟩ := leads
    refine ⟨⟨?_, ?_⟩, ih forward.2 leads present⟩
    · have begins : p <+: (name :: names).foldl go p := begins_foldl_go (by simpa using forward) p
      obtain ⟨e, found⟩ := Option.ne_none_iff_exists'.mp (proper.find?_of_begins begins present)
      rw [← inside, grows.kept found, found]
    · by_cases dot : name = "."
      · exact .inl dot
      · have named := (enters.resolve_left dot).resolve_left (Ne.symm forward.1)
        rw [go_of_ne p dot (Ne.symm forward.1)] at next
        exact .inr (.inr ⟨named.1, next⟩)

/-- Directories on a way that does not go back make no difference to what is at its end. -/
theorem has_of_grows (proper : t.Proper) (proper' : g.Proper)
    (grows : Grows (ancestors here path) t g) (forward : ".." ∉ Path.parts path) :
    has g here path = has t here path := by
  -- What is new is above the end of the way.
  have same : g.find? (place here path) = t.find? (place here path) := by
    rcases grows (place here path) with same | ⟨-, -, ancestor⟩
    · exact same
    · exact absurd rfl (ancestors_above forward ancestor).2
  have steps : ".." ∉ steps path := by
    rw [steps, List.mem_append, not_or]
    refine ⟨forward, ?_⟩
    split <;> decide
  rw [Bool.eq_iff_iff, has_iff proper.unlinked, has_iff proper'.unlinked, same]
  refine and_congr_left fun present => ⟨fun located => ⟨located.1, ?_⟩, .mono grows.toExtends⟩
  exact located.2.of_present proper grows steps (by rwa [foldl_go_steps])

end Forward

/-! Runs. -/

section Runs

variable {α β : Type} (t : FileTree)

theorem run_bind (x : Action α) (next : α → Action β) : (x >>= next).run t =
    match x.run t with
    | (.ok a, u) => (next a).run u
    | (.error f, u) => (.error f, u) := by
  show (ExceptT.bindCont next (x.run t).1).run (x.run t).2 = _
  rcases x.run t with ⟨f | a, u⟩ <;> rfl

theorem run_tryCatch (x : Action α) (next : SystemFault → Action α) : (tryCatch x next).run t =
    match x.run t with
    | (.ok a, u) => (.ok a, u)
    | (.error f, u) => (next f).run u := by
  rw [ExceptT.run_tryCatch]
  rcases result : x.run t with ⟨r, u⟩
  show (x.run >>= _) t = _
  simp only [Bind.bind, StateT.bind]
  rw [show x.run t = (r, u) from result]
  cases r <;> rfl

@[simp] theorem run_get_bind (next : FileTree → Action β) :
    (get >>= next : Action β).run t = (next t).run t := rfl

@[simp] theorem run_liftM (r : Except SystemFault α) : (liftM r : Action α).run t = (r, t) := rfl

theorem run_liftM_bind (r : Except SystemFault α) (next : α → Action β) :
    (liftM r >>= next : Action β).run t =
      match r with
      | .ok a => (next a).run t
      | .error f => (.error f, t) := by
  rw [run_bind, run_liftM]
  cases r <;> rfl

theorem run_makeDirectory (here : Location) (path : String) : (makeDirectory here path).run t =
    match vacant t here path with
    | .ok p => (.ok (), t.put p .directory)
    | .error f => (.error f, t) := by
  rw [makeDirectory, run_get_bind, run_liftM_bind]
  cases vacant t here path <;> rfl

end Runs

/-! Making. -/

/-- What a computation does to a tree is of one kind, whether or not it succeeds. -/
def Acts {α : Type} (R : FileTree → FileTree → Prop) (x : Action α) : Prop := ∀ t, R t (x.run t).2

namespace Acts

variable {α β : Type} {R S : FileTree → FileTree → Prop} {x : Action α}

theorem pure (refl : ∀ t, R t t) (a : α) : Acts R (pure a : Action α) := refl

theorem throw (refl : ∀ t, R t t) (f : SystemFault) : Acts R (throw f : Action α) := refl

theorem mono (acts : Acts R x) (more : ∀ t u, R t u → S t u) : Acts S x :=
  fun t => more t _ (acts t)

theorem bind (trans : ∀ t u v, R t u → R u v → R t v) {next : α → Action β} (first : Acts R x)
    (later : ∀ a, Acts R (next a)) : Acts R (x >>= next) := by
  intro t
  have before := first t
  rw [run_bind]
  generalize x.run t = result at before
  rcases result with ⟨f | a, u⟩
  · exact before
  · exact trans t u _ before (later a u)

theorem tryCatch (trans : ∀ t u v, R t u → R u v → R t v) {next : SystemFault → Action α}
    (first : Acts R x) (later : ∀ f, Acts R (next f)) : Acts R (tryCatch x next) := by
  intro t
  have before := first t
  rw [run_tryCatch]
  generalize x.run t = result at before
  rcases result with ⟨f | a, u⟩
  · exact trans t u _ before (later f u)
  · exact before

end Acts

section Making

variable (here : Location)

/-- What making a directory does, making it with its ancestors does, if the same may be done for a path
as for its parent. -/
theorem acts_makeAncestors {R : String → FileTree → FileTree → Prop} (refl : ∀ path t, R path t t)
    (trans : ∀ path t u v, R path t u → R path u v → R path t v)
    (one : ∀ path, Acts (R path) (makeDirectory here path))
    (above : ∀ path parent, Path.parent? path = some parent → parent ≠ "" →
      ∀ t u, R parent t u → R path t u)
    (path : String) (fuel : Nat) : Acts (R path) (makeAncestors here path fuel) := by
  have ensured (path : String) : Acts (R path) (ensureDirectory here path) := by
    refine .tryCatch (trans path) (one path) fun f t => ?_
    have same : ((do if !isDirectory (← get) here path then throw f : Action Unit).run t).2 = t := by
      show ((if !isDirectory t here path then throw f else pure () : Action Unit).run t).2 = t
      cases isDirectory t here path <;> rfl
    rw [same]
    exact refl path t
  induction fuel generalizing path with
  | zero => exact .pure (refl path) _
  | succ fuel ih =>
    rw [makeAncestors]
    split
    · exact .pure (refl path) _
    · refine .tryCatch (trans path) (ensured path) fun f => ?_
      split
      · split
        · next parent found =>
          refine .bind (trans path) ?_ fun _ => ensured path
          by_cases filled : parent = ""
          · rw [filled]
            cases fuel with
            | zero => exact .pure (refl path) _
            | succ => rw [makeAncestors]; exact .pure (refl path) _
          · exact (ih parent).mono (above path parent found filled)
        · exact .bind (trans path) (.throw (refl path) _) fun _ => ensured path
      · exact .throw (refl path) _

/-- A computation that may make directories at some places, and changes nothing else. -/
def Builds {α : Type} (places : List Location) (x : Action α) : Prop :=
  ∀ t : FileTree, t.Proper → (x.run t).2.Proper ∧ Grows places t (x.run t).2

theorem builds_makeDirectory (path : String) : Builds (wayTo here path) (makeDirectory here path) := by
  intro t proper
  rw [run_makeDirectory]
  cases free : vacant t here path with
  | error f => exact ⟨proper, .refl _ t⟩
  | ok p =>
    obtain ⟨⟨front, name, aimed⟩, absent, rfl⟩ := vacant_eq_ok proper.unlinked free
    refine ⟨?_, fun q => ?_⟩
    · rw [aimed.place_eq]
      exact proper.put nofun aimed.parent fun _ => rfl
    · dsimp only
      rw [find?_put t aimed.place_ne_nil]
      split
      · next made => exact .inr (made ▸ ⟨absent, rfl, aimed.place_mem_wayTo⟩)
      · exact .inl rfl

/-- Directories are made on the way of a path only. -/
theorem builds_makeAncestors (path : String) (fuel : Nat) :
    Builds (wayTo here path) (makeAncestors here path fuel) := by
  refine acts_makeAncestors here (R := fun path t u => t.Proper → u.Proper ∧ Grows (wayTo here path) t u)
    ?_ ?_ (builds_makeDirectory here) ?_ path fuel
  · exact fun path t proper => ⟨proper, .refl _ t⟩
  · intro path t u v first second proper
    obtain ⟨proper', grows⟩ := first proper
    exact ⟨(second proper').1, grows.trans (second proper').2⟩
  · intro path parent found filled t u grown proper
    refine ⟨(grown proper).1, (grown proper).2.mono ?_⟩
    -- The way of the parent is the beginning of that of the path.
    exact ancestors_eq_wayTo here found filled ▸ ancestors_subset_wayTo here path

theorem builds_makeDirectories (path : String) : Builds (wayTo here path) (makeDirectories here path) :=
  builds_makeAncestors here path _

/-- A directory need not be made twice. -/
theorem run_makeDirectories_of_isDirectory {t : FileTree} {path : String}
    (inside : isDirectory t here path = true) : (makeDirectories here path).run t = (.ok (), t) := by
  have kept : (ensureDirectory here path).run t = (.ok (), t) := by
    obtain ⟨q, found, -⟩ := isDirectory_eq_true_iff.mp inside
    rw [ensureDirectory, run_tryCatch, run_makeDirectory]
    cases free : vacant t here path with
    | ok p => exact absurd free (vacant_ne_ok found)
    | error f =>
      show (if !isDirectory t here path then throw f else pure () : Action Unit).run t = _
      rw [inside]
      rfl
  rw [makeDirectories, makeAncestors]
  split
  · rfl
  · rw [run_tryCatch, kept]

end Making

end Scaffold.Files
