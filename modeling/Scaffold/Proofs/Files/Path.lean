import Scaffold.Files.Path
import Scaffold.Proofs.Text.Pieces

/-! The names in a path, those in the path that is its parent, and those in a path with a longer last
name. -/
namespace Scaffold.Path

open Text

/-! Texts cut at slashes. -/

/-- The names between the slashes of a text. -/
def names (s : List Char) : List String :=
  ((pieces '/' s).filter (!·.isEmpty)).map String.ofList

theorem parts_eq (path : String) : parts path = names path.toList := rfl

theorem names_append (s t : List Char) : names (s ++ '/' :: t) = names s ++ names t := by
  rw [names, pieces_append, List.filter_append, List.map_append]
  rfl

@[simp] theorem names_cons_slash (s : List Char) : names ('/' :: s) = names s :=
  names_append [] s

theorem names_of_notMem {s : List Char} (absent : '/' ∉ s) (filled : s ≠ []) :
    names s = [String.ofList s] := by
  rw [names, pieces_of_notMem absent, List.filter_cons_of_pos (by simpa using filled)]
  rfl

theorem isAbsolute_iff (path : String) : isAbsolute path = true ↔ path.toList.head? = some '/' := by
  rw [isAbsolute, String.startsWith_string_iff]
  cases path.toList <;> simp [eq_comm]

theorem endsInSlash_iff (path : String) : endsInSlash path = true ↔ ['/'] <:+ path.toList := by
  rw [endsInSlash, ← String.endsWith_toSlice, String.Slice.endsWith_string_iff, String.copy_toSlice]
  rfl

/-! A path below a base. -/

theorem join_of_isAbsolute (base : String) {path : String} (absolute : isAbsolute path = true) :
    join base path = path :=
  if_pos absolute

theorem parts_join (base : String) {path : String} (relative : isAbsolute path = false) :
    parts (join base path) = parts base ++ parts path := by
  simp only [join, relative, Bool.false_eq_true, if_false, parts_eq]
  split
  · next ends =>
    rcases Bool.or_eq_true_iff.mp ends with empty | slash
    · rw [String.isEmpty_iff.mp empty, String.empty_append]
      rfl
    · obtain ⟨front, whole⟩ := (endsInSlash_iff base).mp slash
      have alone := names_append front []
      rw [String.toList_append, ← whole, List.append_assoc, List.singleton_append, names_append, alone]
      simp [names, pieces]
  · rw [String.toList_append, String.toList_append, List.append_assoc]
    exact names_append base.toList path.toList

/-! The parent of a path. -/

/-- Names that lead nowhere. -/
def AllDots (names : List String) : Prop := ∀ name ∈ names, name = "."

theorem AllDots.append {s t : List String} (first : AllDots s) (second : AllDots t) :
    AllDots (s ++ t) := by
  intro name member
  rcases List.mem_append.mp member with member | member
  · exact first name member
  · exact second name member

theorem notMem_cutName (s : List Char) : '/' ∉ (cutName s).1 := by
  intro member
  have kept := List.all_takeWhile (l := s) (p := fun c => decide (c ≠ '/'))
  simpa using List.all_eq_true.mp kept '/' member

theorem cutName_cases (s : List Char) :
    s = (cutName s).1 ∧ (cutName s).2 = [] ∨ s = (cutName s).1 ++ '/' :: (cutName s).2 := by
  have whole := List.takeWhile_append_dropWhile (p := (· ≠ '/')) (l := s)
  simp only [cutName]
  cases rest : s.dropWhile (· ≠ '/') with
  | nil =>
    rw [rest, List.append_nil] at whole
    exact .inl ⟨whole.symm, rfl⟩
  | cons c t =>
    have slash := List.head?_dropWhile_not (· ≠ '/') s
    rw [rest] at slash whole
    obtain rfl : c = '/' := by simpa using slash
    exact .inr whole.symm

theorem names_reverse (s : List Char) :
    names s.reverse = names (cutName s).2.reverse ++ names (cutName s).1.reverse := by
  rcases cutName_cases s with ⟨all, none⟩ | cut
  · rw [none, ← all]
    rfl
  · conv => lhs; rw [cut]
    rw [List.reverse_append, List.reverse_cons, List.append_assoc]
    exact names_append _ _

theorem cutName_suffix (s : List Char) : (cutName s).2 <:+ s := by
  rcases cutName_cases s with ⟨-, none⟩ | cut
  · exact none ▸ List.nil_suffix
  · exact ⟨(cutName s).1 ++ ['/'], by simpa using cut.symm⟩

/-- What is dropped from the end of a path leads nowhere, and what is left ends in a name. -/
theorem dropNameless_spec (s : List Char) :
    dropNameless s <:+ s ∧
      (∃ dots, names s.reverse = names (dropNameless s).reverse ++ dots ∧ AllDots dots) ∧
      (dropNameless s = [] ∨
        (cutName (dropNameless s)).1 ≠ [] ∧ (cutName (dropNameless s)).1 ≠ ['.']) := by
  induction s using dropNameless.induct with
  | case1 => exact ⟨by simp [dropNameless], ⟨[], by simp [dropNameless], nofun⟩, .inl (by simp [dropNameless])⟩
  | case2 c s name nameless ih =>
    obtain ⟨suffix, ⟨dots, same, dotted⟩, named⟩ := ih
    rw [dropNameless, if_pos nameless]
    refine ⟨suffix.trans (cutName_suffix _), ⟨dots ++ names name.reverse, ?_, ?_⟩, named⟩
    · rw [names_reverse, same, List.append_assoc]
    · refine dotted.append ?_
      rcases (by simpa using nameless : name = [] ∨ name = ['.']) with none | dot
      · rw [none]
        nofun
      · rw [dot]
        intro n member
        simpa [names, pieces] using member
  | case3 c s name named =>
    rw [dropNameless, if_neg named]
    exact ⟨List.suffix_refl _, ⟨[], by simp, nofun⟩, .inr (by simpa using named)⟩

/-- What is before the last name of a text is a beginning of the text. -/
theorem begins_above (body : List Char) :
    (dropNameless (cutName (dropNameless body.reverse)).2).reverse <+: body := by
  have dropped := (dropNameless_spec (cutName (dropNameless body.reverse)).2).1
  have inside := (dropped.trans (cutName_suffix _)).trans (dropNameless_spec body.reverse).1
  simpa using List.reverse_prefix.mpr inside

theorem splitFront_spec (s : List Char) :
    s = (splitFront s).1 ++ (splitFront s).2 ∧
      ((splitFront s).1 = ['/'] ∨ (splitFront s).1 = [] ∧ s.head? ≠ some '/' ∨
        (splitFront s).1 = ['.'] ∧ (splitFront s).2.head?.all (· = '/') = true) := by
  unfold splitFront
  split
  · simp
  · split
    · next slashed => exact ⟨rfl, .inr (.inr ⟨rfl, slashed⟩)⟩
    · simp
  · next other _ =>
    refine ⟨rfl, .inr (.inl ⟨rfl, ?_⟩)⟩
    intro slash
    obtain ⟨t, rfl⟩ := List.head?_eq_some_iff.mp slash
    exact other t rfl

theorem names_front_append {s p : List Char} (front : p <+: (splitFront s).2) :
    names ((splitFront s).1 ++ p) = names (splitFront s).1 ++ names p := by
  obtain ⟨-, slash | ⟨none, -⟩ | ⟨dot, slashed⟩⟩ := splitFront_spec s
  · rw [slash]
    exact names_cons_slash p
  · rw [none]
    rfl
  · rw [dot]
    cases p with
    | nil => rfl
    | cons c p =>
      obtain ⟨rest, body⟩ := front
      rw [← body] at slashed
      obtain rfl : c = '/' := by simpa using slashed
      rw [names_cons_slash]
      exact names_append ['.'] p

/-- Both a path and a beginning of it that is not empty are absolute, or neither is. -/
theorem isAbsolute_of_begins {path start : String} (begins : start.toList <+: path.toList)
    (filled : start ≠ "") : isAbsolute start = isAbsolute path := by
  have head : start.toList.head? = path.toList.head? := by
    obtain ⟨rest, same⟩ := begins
    rw [← same, List.head?_append]
    cases letters : start.toList with
    | nil => exact absurd (String.toList_eq_nil_iff.mp letters) filled
    | cons c cs => rfl
  rw [Bool.eq_iff_iff, isAbsolute_iff, isAbsolute_iff, head]

/-- The parent of a path is the beginning of it up to the last name. -/
theorem parent?_eq_some {path parent : String} (found : parent? path = some parent) :
    ∃ before name after, parts path = parts parent ++ (before ++ name :: after) ∧
      AllDots (before ++ after) ∧ (parent ≠ "" → name ≠ ".") ∧ parent.toList <+: path.toList := by
  have whole := (splitFront_spec path.toList).1
  have split := fun p => names_front_append (s := path.toList) (p := p)
  unfold parent? at found
  generalize splitFront path.toList = cut at whole split found
  obtain ⟨front, body⟩ := cut
  dsimp only at whole split found
  have all : parts path = names front ++ names body := by
    rw [parts_eq, whole, split body (List.prefix_refl body)]
  obtain ⟨suffix, ⟨after, rest, dotted⟩, named⟩ := dropNameless_spec body.reverse
  rw [List.reverse_reverse] at rest
  cases left : dropNameless body.reverse with
  | nil =>
    rw [left] at found rest
    dsimp only at found
    split at found
    · next dot =>
      cases found
      refine ⟨[], ".", after, ?_, dotted, fun filled => absurd rfl filled, List.nil_prefix⟩
      rw [all, rest, dot]
      rfl
    · cases found
  | cons c reversed =>
    rw [left] at found rest named suffix
    dsimp only at found
    cases found
    obtain ⟨-, ⟨before, rest', dotted'⟩, -⟩ := dropNameless_spec (cutName (c :: reversed)).2
    have begins : (dropNameless (cutName (c :: reversed)).2).reverse <+: body := left ▸ begins_above body
    obtain ⟨filled, undotted⟩ := named.resolve_left (List.cons_ne_nil c reversed)
    rw [← List.reverse_ne_nil_iff] at filled
    have single := names_of_notMem
      (fun member => notMem_cutName (c :: reversed) (List.mem_reverse.mp member)) filled
    refine ⟨before, String.ofList (cutName (c :: reversed)).1.reverse, after, ?_, dotted'.append dotted,
      fun _ dot => ?_, ?_⟩
    · rw [all, rest, names_reverse, rest', single, parts_eq, String.toList_ofList, split _ begins]
      simp
    · have letters := congrArg String.toList dot
      rw [String.toList_ofList, List.reverse_eq_iff] at letters
      exact undotted letters
    · rw [String.toList_ofList, whole]
      exact List.prefix_append_right_inj front |>.mpr begins

/-- Without the names behind it, the front of a path has none but dots. -/
theorem allDots_front (s : List Char) : AllDots (names (splitFront s).1) := by
  obtain ⟨-, slash | ⟨none, -⟩ | ⟨dot, -⟩⟩ := splitFront_spec s
  · rw [slash]
    nofun
  · rw [none]
    nofun
  · rw [dot]
    intro name member
    simpa [names, pieces] using member

/-- A path without a parent has no names but dots. -/
theorem allDots_of_parent?_eq_none {path : String} (none : parent? path = none) :
    AllDots (parts path) := by
  have whole := (splitFront_spec path.toList).1
  have split := fun p => names_front_append (s := path.toList) (p := p)
  have dotted := allDots_front path.toList
  unfold parent? at none
  generalize splitFront path.toList = cut at whole split dotted none
  obtain ⟨front, body⟩ := cut
  dsimp only at whole split dotted none
  obtain ⟨-, ⟨dots, rest, dotted'⟩, -⟩ := dropNameless_spec body.reverse
  rw [List.reverse_reverse] at rest
  cases left : dropNameless body.reverse with
  | cons c reversed =>
    rw [left] at none
    cases none
  | nil =>
    rw [left] at rest
    rw [parts_eq, whole, split body (List.prefix_refl body), rest]
    exact dotted.append dotted'

/-- The last name of a parent leads somewhere, if the parent has other names than dots. -/
theorem parent?_ending {path parent : String} (found : parent? path = some parent) :
    (parts parent).getLast? ≠ some "." ∨ AllDots (parts parent) := by
  have split := fun p => names_front_append (s := path.toList) (p := p)
  have dotted := allDots_front path.toList
  unfold parent? at found
  generalize splitFront path.toList = cut at split dotted found
  obtain ⟨front, body⟩ := cut
  dsimp only at split dotted found
  have begins := begins_above body
  cases left : dropNameless body.reverse with
  | nil =>
    rw [left] at found
    dsimp only at found
    split at found
    · cases found
      exact .inr nofun
    · cases found
  | cons c reversed =>
    rw [left] at found begins
    cases found
    obtain ⟨-, -, named⟩ := dropNameless_spec (cutName (c :: reversed)).2
    rw [parts_eq, String.toList_ofList, split _ begins]
    rcases named with none | ⟨filled, undotted⟩
    · rw [none]
      exact .inr (dotted.append nofun)
    · refine .inl ?_
      rw [← List.reverse_ne_nil_iff] at filled
      rw [names_reverse, names_of_notMem (fun member => notMem_cutName _ (List.mem_reverse.mp member)) filled,
        ← List.append_assoc, List.getLast?_concat]
      intro dot
      have letters := congrArg String.toList (Option.some.inj dot)
      rw [String.toList_ofList, List.reverse_eq_iff] at letters
      exact undotted letters

theorem length_parent_lt {path parent : String} (found : parent? path = some parent) :
    parent.length < path.length := by
  obtain ⟨before, name, after, parts, -, -, begins⟩ := parent?_eq_some found
  rw [← String.length_toList, ← String.length_toList]
  refine Nat.lt_of_le_of_ne begins.length_le fun same => ?_
  obtain rfl : parent = path := String.toList_inj.mp (begins.eq_of_length same)
  have longer := congrArg List.length parts
  simp at longer

/-! A longer last name. -/

/-- What is put to the end of a path that does not end in a slash lengthens its last name. -/
theorem names_lengthen {s : List Char} (filled : s ≠ []) (unended : ¬ ['/'] <:+ s) :
    ∃ front name, names s = front ++ [name] ∧
      ∀ t, '/' ∉ t → names (s ++ t) = front ++ [name ++ String.ofList t] := by
  have absent (t : List Char) (free : '/' ∉ t) : '/' ∉ (cutName s.reverse).1.reverse ++ t := by
    rw [List.mem_append, List.mem_reverse, not_or]
    exact ⟨notMem_cutName s.reverse, free⟩
  have named : (cutName s.reverse).1.reverse ≠ [] := by
    rw [Ne, List.reverse_eq_nil_iff]
    intro none
    rcases cutName_cases s.reverse with ⟨all, -⟩ | cut
    · exact filled (List.reverse_eq_nil_iff.mp (all.trans none))
    · refine unended ⟨(cutName s.reverse).2.reverse, ?_⟩
      rw [none, List.nil_append, List.reverse_eq_iff, List.reverse_cons] at cut
      exact cut.symm
  have last (t : List Char) (free : '/' ∉ t) := names_of_notMem (absent t free)
    (List.append_ne_nil_of_left_ne_nil named t)
  -- The last name is all of the text, or it comes after a slash.
  have cut : ∃ front, ∀ t, names (s ++ t) = names front ++ names ((cutName s.reverse).1.reverse ++ t) := by
    rcases cutName_cases s.reverse with ⟨all, -⟩ | cut
    · refine ⟨[], fun t => ?_⟩
      rw [← all, List.reverse_reverse]
      rfl
    · refine ⟨(cutName s.reverse).2.reverse, fun t => ?_⟩
      rw [← names_append]
      rw [List.reverse_eq_iff, List.reverse_append, List.reverse_cons, List.append_assoc] at cut
      exact congrArg names ((congrArg (· ++ t) cut).trans (by simp))
  obtain ⟨front, cut⟩ := cut
  refine ⟨names front, String.ofList (cutName s.reverse).1.reverse, ?_, fun t free => ?_⟩
  · have := cut []
    rw [last [] List.not_mem_nil, List.append_nil, List.append_nil] at this
    exact this
  · rw [cut t, last t free, String.ofList_append]

end Scaffold.Path
