import Scaffold.Proofs.Text.Blank
import Scaffold.Proofs.Text.Cutting
import Scaffold.Step.Edit

/-! Import statements, and the lines that they become. No text ends both in a statement and in a line, and
neither has a semicolon but at its end, so that a statement cannot come about when others are converted. -/
namespace Scaffold.Edit

open Text

/-! Statements. -/

theorem importKeyword_eq : importKeyword = ['@', 'i', 'm', 'p', 'o', 'r', 't'] := rfl

/-- An import statement as it is written. -/
structure WrittenImport where
  blanks : List Char
  name : List Char

/-- The name goes from the white space to the semicolon, and has neither in it. -/
structure WrittenImport.Valid (i : WrittenImport) : Prop where
  spaced : i.blanks ≠ []
  blank : Blank i.blanks
  named : i.name ≠ []
  plain : ∀ c ∈ i.name, isImportName c = true

def imports : TokenForm WrittenImport where
  source i := importKeyword ++ i.blanks ++ i.name ++ [';']
  valid := WrittenImport.Valid

/-- An import statement stands somewhere in a text. -/
def HasImport (s : List Char) : Prop :=
  ∃ before i after, imports.valid i ∧ s = before ++ imports.source i ++ after

theorem isImportName_eq_true_iff {c : Char} : isImportName c = true ↔ c ≠ ';' ∧ isBlank c = false := by
  simp [isImportName]

theorem takeWhile_name {name : List Char} (plain : ∀ c ∈ name, isImportName c = true) (after : List Char) :
    (name ++ ';' :: after).takeWhile isImportName = name ∧
      (name ++ ';' :: after).dropWhile isImportName = ';' :: after := by
  have stop : isImportName ';' = false := by decide
  rw [List.takeWhile_append_of_pos plain, List.dropWhile_append_of_pos plain]
  simp [stop]

theorem importStatement?_eq_some {s name after : List Char} :
    importStatement? s = some (name, after) ↔
      ∃ blanks, imports.valid ⟨blanks, name⟩ ∧ s = imports.source ⟨blanks, name⟩ ++ after := by
  simp only [importStatement?, Option.bind_eq_bind, Option.bind_eq_some_iff, dropStart?_eq_some]
  constructor
  · rintro ⟨rest, rfl, found⟩
    split at found
    · cases found
    · next spaced =>
      simp only [Option.bind_eq_some_iff, dropStart?_eq_some] at found
      obtain ⟨after', ended, found⟩ := found
      split at found
      · cases found
      · next named =>
        cases found
        obtain ⟨blanks, blank, whole, stop⟩ := exists_trimStart rest
        refine ⟨blanks, ⟨?_, blank, by simpa using named, fun c member => List.mem_takeWhile_imp member⟩, ?_⟩
        · rintro rfl
          rw [List.nil_append] at whole
          rw [← whole] at stop
          cases rest with
          | nil => simp at spaced
          | cons c rest => simp [stop c rfl] at spaced
        · have parts : trimStart rest = (trimStart rest).takeWhile isImportName ++ ([';'] ++ after) := by
            rw [← ended, List.takeWhile_append_dropWhile]
          simp only [imports, List.append_assoc]
          rw [← parts, ← whole]
  · rintro ⟨blanks, ⟨spaced, blank, named, plain⟩, rfl⟩
    refine ⟨blanks ++ (name ++ ';' :: after), by simp [imports], ?_⟩
    have stop : ∀ c, (name ++ ';' :: after).head? = some c → isBlank c = false := by
      intro c head
      obtain ⟨d, more, rfl⟩ := List.exists_cons_of_ne_nil named
      cases head
      exact (isImportName_eq_true_iff.mp (plain c List.mem_cons_self)).2
    obtain ⟨b, more, rfl⟩ := List.exists_cons_of_ne_nil spaced
    have first : isBlank b = true := blank b List.mem_cons_self
    have rest := trimStart_append_of_blank blank stop
    obtain ⟨front, back⟩ := takeWhile_name plain after
    simp only [List.cons_append] at rest ⊢
    simp only [List.head?_cons, Option.any_some, first, Bool.not_true, Bool.false_eq_true, if_false, rest,
      front, back, List.isEmpty_iff, Option.bind_eq_some_iff, dropStart?_eq_some]
    exact ⟨after, rfl, if_neg named⟩

theorem imports_definite : imports.Definite where
  nonempty i _ empty := by simp [imports, importKeyword_eq] at empty
  unique i j rest rest' valid valid' same := by
    have first : importStatement? (imports.source i ++ rest) = some (i.name, rest) :=
      importStatement?_eq_some.mpr ⟨i.blanks, valid, rfl⟩
    have second : importStatement? (imports.source i ++ rest) = some (j.name, rest') :=
      importStatement?_eq_some.mpr ⟨j.blanks, valid', same⟩
    cases i with
    | mk blanks name =>
      cases j with
      | mk blanks' name' =>
        obtain ⟨rfl, rfl⟩ := Prod.mk.inj (Option.some.inj (first.symm.trans second))
        simp only [imports, List.append_assoc, List.append_cancel_left_eq] at same
        rw [List.append_cancel_right same]

/-! Conversion. -/

theorem importLine_eq (name : List Char) : importLine name = ['i', 'm', 'p', 'o', 'r', 't', ' '] ++ name ++
    [' ', 'f', 'r', 'o', 'm', ' ', '\''] ++ name ++ ['\'', ';'] := rfl

/-- A statement becomes a line, and all else stays. -/
def converted : Chunk WrittenImport → List Char
  | .plain s => s
  | .token i => importLine i.name

theorem convertImports_source {i : WrittenImport} (valid : imports.valid i) (rest : List Char) :
    convertImports (imports.source i ++ rest) = importLine i.name ++ convertImports rest := by
  have found : importStatement? (imports.source i ++ rest) = some (i.name, rest) :=
    importStatement?_eq_some.mpr ⟨i.blanks, valid, rfl⟩
  rw [convertImports]
  split
  · next other =>
    cases found.symm.trans other
    rfl
  · next none => cases found.symm.trans none

theorem convertImports_cons {c : Char} {rest : List Char} (free : ¬ imports.StartsAt (c :: rest)) :
    convertImports (c :: rest) = c :: convertImports rest := by
  rw [convertImports]
  split
  · next found =>
    obtain ⟨blanks, valid, same⟩ := importStatement?_eq_some.mp found
    exact absurd ⟨_, _, valid, same⟩ free
  · rfl

/-- A text is converted along its cut at import statements. -/
theorem convertImports_eq {s : List Char} {parts : List (Chunk WrittenImport)} (cut : imports.Cuts s parts) :
    convertImports s = parts.flatMap converted := by
  have kinds : converted = Chunk.put (fun c => [c]) fun i => importLine i.name := by
    funext p
    cases p with
    | plain l => simp [converted, Chunk.put]
    | token i => rfl
  rw [kinds]
  exact cut.append_eq convertImports (by decide +kernel) (fun i rest valid => convertImports_source valid rest)
    fun c rest free => convertImports_cons free

theorem hasImport_of_importStatement? {s name after : List Char}
    (found : importStatement? s = some (name, after)) : HasImport s := by
  obtain ⟨blanks, valid, same⟩ := importStatement?_eq_some.mp found
  exact ⟨[], _, after, valid, same⟩

theorem HasImport.cons {s : List Char} (has : HasImport s) (c : Char) : HasImport (c :: s) := by
  obtain ⟨before, i, after, valid, rfl⟩ := has
  exact ⟨c :: before, i, after, valid, rfl⟩

theorem convertImports_of_not_hasImport {s : List Char} (free : ¬ HasImport s) : convertImports s = s := by
  fun_induction convertImports s with
  | case1 s name after found => exact absurd (hasImport_of_importStatement? found) free
  | case2 => rfl
  | case3 c s _ ih => rw [ih fun has => free (has.cons c)]

/-! No statement is left. -/

theorem last_blank_unique {s t s' t' : List Char} {b b' : Char} (same : s ++ b :: t = s' ++ b' :: t')
    (blank : isBlank b = true) (blank' : isBlank b' = true) (free : ∀ c ∈ t, isBlank c = false)
    (free' : ∀ c ∈ t', isBlank c = false) : s = s' := by
  obtain ⟨more, rfl, rest⟩ | ⟨more, rfl, rest⟩ := List.append_eq_append_iff.mp same
  · cases more with
    | nil => rw [List.append_nil]
    | cons d more =>
      have member : b' ∈ t := by
        rw [(List.cons.inj rest).2]
        simp
      rw [free b' member] at blank'
      cases blank'
  · cases more with
    | nil => rw [List.append_nil]
    | cons d more =>
      have member : b ∈ t' := by
        rw [(List.cons.inj rest).2]
        simp
      rw [free' b member] at blank
      cases blank

/-- Before the name of a statement there is white space behind more of it or behind the keyword, and
before the last name of a line a single blank behind another word. -/
theorem source_ne_importLine {i : WrittenImport} (valid : imports.valid i) {name : List Char}
    (plain : ∀ c ∈ name, isImportName c = true) (u k : List Char) :
    u ++ imports.source i ≠ k ++ importLine name := by
  intro same
  obtain ⟨spaced, blank, -, plain'⟩ := valid
  obtain ⟨front, b, blanks⟩ := (List.eq_nil_or_concat i.blanks).resolve_left spaced
  rw [List.concat_eq_append] at blanks
  rw [blanks] at blank
  have left : u ++ imports.source i = (u ++ importKeyword ++ front) ++ b :: (i.name ++ [';']) := by
    simp [imports, blanks]
  have right : k ++ importLine name = (k ++ ['i', 'm', 'p', 'o', 'r', 't', ' '] ++ name ++
      [' ', 'f', 'r', 'o'] ++ ['m']) ++ ' ' :: '\'' :: (name ++ ['\'', ';']) := by
    simp only [importLine_eq, List.append_assoc, List.cons_append, List.nil_append]
  rw [left, right] at same
  have free {s : List Char} (plain : ∀ c ∈ s, isImportName c = true) (c : Char) (member : c ∈ s) :
      isBlank c = false := (isImportName_eq_true_iff.mp (plain c member)).2
  have fronts := last_blank_unique same (blank b (by simp)) (by decide) ?_ ?_
  · -- The characters before the last blank differ.
    have letter : (u ++ importKeyword ++ front).getLast? = some 'm' := by rw [fronts, List.getLast?_concat]
    rcases List.eq_nil_or_concat front with rfl | ⟨more, d, rfl⟩
    · simp [importKeyword_eq] at letter
    · rw [List.concat_eq_append, ← List.append_assoc, List.getLast?_concat] at letter
      cases letter
      exact absurd (blank 'm' (by simp)) (by decide)
  · intro c member
    rcases List.mem_append.mp member with inside | last
    · exact free plain' c inside
    · cases List.mem_singleton.mp last
      decide
  · intro c member
    rcases List.mem_cons.mp member with rfl | member
    · decide
    · rcases List.mem_append.mp member with inside | last
      · exact free plain c inside
      · rcases List.mem_pair.mp last with rfl | rfl <;> decide

theorem exists_source_eq {i : WrittenImport} (valid : imports.valid i) :
    ∃ front, imports.source i = front ++ [';'] ∧ ';' ∉ front := by
  refine ⟨importKeyword ++ i.blanks ++ i.name, rfl, fun member => ?_⟩
  rcases List.mem_append.mp member with member | member
  · rcases List.mem_append.mp member with member | member
    · exact absurd member (by decide)
    · exact absurd (valid.blank _ member) (by decide)
  · exact (isImportName_eq_true_iff.mp (valid.plain _ member)).1 rfl

theorem exists_importLine_eq {name : List Char} (plain : ∀ c ∈ name, isImportName c = true) :
    ∃ front, importLine name = front ++ [';'] ∧ ';' ∉ front := by
  have named : ';' ∉ name := fun member => (isImportName_eq_true_iff.mp (plain _ member)).1 rfl
  refine ⟨['i', 'm', 'p', 'o', 'r', 't', ' '] ++ name ++ [' ', 'f', 'r', 'o', 'm', ' ', '\''] ++ name ++
    ['\''], by simp only [importLine_eq, List.append_assoc, List.cons_append, List.nil_append],
    by simp [named]⟩

theorem plain_of_importStatement? {s name after : List Char} (found : importStatement? s = some (name, after)) :
    ∀ c ∈ name, isImportName c = true := by
  obtain ⟨blanks, valid, -⟩ := importStatement?_eq_some.mp found
  exact valid.plain

/-- What a converted text has up to its first semicolon has been there before, or it ends in a line. -/
theorem front_of_convertImports {s front rest : List Char} (first : ';' ∉ front)
    (same : convertImports s = front ++ ';' :: rest) :
    (∃ rest', s = front ++ ';' :: rest') ∨ ∃ before name, (∀ c ∈ name, isImportName c = true) ∧
      front ++ [';'] = before ++ importLine name := by
  fun_induction convertImports s generalizing front with
  | case1 s name after found =>
    have plain := plain_of_importStatement? found
    obtain ⟨line, whole, first'⟩ := exists_importLine_eq plain
    rw [whole, List.append_assoc] at same
    refine .inr ⟨[], name, plain, ?_⟩
    rw [← front_unique same first' first, List.nil_append, whole]
  | case2 => simp at same
  | case3 c s _ ih =>
    cases front with
    | nil => exact .inl ⟨s, by rw [(List.cons.inj same).1]; rfl⟩
    | cons d front =>
      obtain ⟨rfl, later⟩ := List.cons.inj same
      rcases ih (fun member => first (List.mem_cons_of_mem c member)) later with
        ⟨rest', rfl⟩ | ⟨before, name, plain, ends⟩
      · exact .inl ⟨rest', rfl⟩
      · exact .inr ⟨c :: before, name, plain, congrArg (c :: ·) ends⟩

/-- A converted text has no import statement. One that reaches into a line would end where the line ends,
and one that begins at a character that has been kept would have been there before. -/
theorem not_hasImport_convertImports (s : List Char) : ¬ HasImport (convertImports s) := by
  rintro ⟨before, i, after, valid, same⟩
  obtain ⟨front, whole, first⟩ := exists_source_eq valid
  fun_induction convertImports s generalizing before with
  | case1 s name rest found ih =>
    have plain := plain_of_importStatement? found
    rw [List.append_assoc] at same
    obtain ⟨more, rfl, later⟩ | ⟨more, line, later⟩ := List.append_eq_append_iff.mp same
    · -- It begins behind the line.
      exact ih more (by rw [later, List.append_assoc])
    rcases List.eq_nil_or_concat more with rfl | ⟨inner, c, rfl⟩
    · exact ih [] later.symm
    · -- It begins within the line, whose semicolon is then its own.
      obtain ⟨front', whole', first'⟩ := exists_importLine_eq plain
      rw [List.concat_eq_append, ← List.append_assoc] at line
      obtain ⟨rfl, semicolon⟩ := List.append_inj' (whole'.symm.trans line) rfl
      cases semicolon
      simp only [whole, List.concat_eq_append, List.append_assoc, List.singleton_append] at later
      have ends := front_unique later first fun member => first' (List.mem_append_right before member)
      refine source_ne_importLine valid plain before [] ?_
      rw [whole, whole', ends, List.nil_append, List.append_assoc]
  | case2 => simp [whole] at same
  | case3 c s free ih =>
    cases before with
    | cons d before => exact ih before (List.cons.inj same).2
    | nil =>
      rw [List.nil_append, whole, List.append_assoc, List.singleton_append] at same
      cases front with
      | nil => simp [imports, importKeyword_eq] at whole
      | cons d front =>
        obtain ⟨rfl, later⟩ := List.cons.inj same
        rcases front_of_convertImports (fun member => first (List.mem_cons_of_mem c member)) later with
          ⟨rest, rfl⟩ | ⟨k, name, plain, ends⟩
        · have found : importStatement? (c :: (front ++ ';' :: rest)) = some (i.name, rest) :=
            importStatement?_eq_some.mpr ⟨i.blanks, valid, by rw [whole]; simp⟩
          rw [free] at found
          cases found
        · refine source_ne_importLine valid plain [] (c :: k) ?_
          rw [List.nil_append, whole, List.cons_append, ends, List.cons_append]

theorem hasImport_iff_convertImports_ne {s : List Char} : HasImport s ↔ convertImports s ≠ s := by
  constructor
  · intro has same
    exact not_hasImport_convertImports s (same.symm ▸ has)
  · intro changed
    exact Classical.byContradiction fun free => changed (convertImports_of_not_hasImport free)

instance (s : List Char) : Decidable (HasImport s) := decidable_of_iff _ hasImport_iff_convertImports_ne.symm

/-! Content around an old text. -/

/-- New content with the old text in the place of its first placeholder, if it has one. -/
inductive Merged (existing content : List Char) : List Char → Prop where
  | filled {before after : List Char} (split : content = before ++ contentPlaceholder ++ after)
      (first : IsFirst contentPlaceholder before) : Merged existing content (before ++ existing ++ after)
  | kept (absent : ∀ before after, content ≠ before ++ contentPlaceholder ++ after) :
      Merged existing content content

theorem merged_iff {existing content merged : List Char} :
    Merged existing content merged ↔ merged = replaceFirst contentPlaceholder existing content := by
  rw [replaceFirst]
  cases found : cut? contentPlaceholder content with
  | none =>
    have absent := cut?_eq_none.mp found
    constructor
    · rintro (⟨split, -⟩ | -)
      · exact absurd split (absent _ _)
      · rfl
    · rintro rfl
      exact .kept absent
  | some cut =>
    obtain ⟨split, first⟩ := cut?_eq_some.mp found
    constructor
    · rintro (⟨split', first'⟩ | absent)
      · obtain ⟨rfl, rfl⟩ := first.unique first' (split.symm.trans split')
        rfl
      · exact absurd split (absent _ _)
    · rintro rfl
      exact .filled split first

theorem toList_fillContent {existing content : String} {merged : List Char}
    (whole : Merged existing.toList content.toList merged) :
    (fillContent existing content).toList = convertImports merged := by
  rw [fillContent, String.toList_ofList, ← merged_iff.mp whole]

theorem toList_fillContent_placeholder (existing : String) :
    (fillContent existing (String.ofList contentPlaceholder)).toList = convertImports existing.toList := by
  refine toList_fillContent ?_
  rw [String.toList_ofList]
  have alone : Merged existing.toList contentPlaceholder ([] ++ existing.toList ++ []) :=
    .filled (by simp) (isFirst_nil _)
  simpa using alone

end Scaffold.Edit
