import Scaffold.Proofs.Template.TwoPass
import Scaffold.Proofs.Text.Blank

/-! The grammar of conditions. A text has one form at the most, in one way, so that it does not matter
in which order the forms are tried. -/
namespace Scaffold.Condition

open Text

def IsName (name : String) : Prop := name.toList ≠ [] ∧ ∀ c ∈ name.toList, isWord c = true

/-- A condition as it is written. -/
inductive Form where
  | equality (name : String) (before after : List Char) (quote : Char) (literal : String)
  | truthy (name : String)
  | falsy (blanks : List Char) (name : String)

namespace Form

def source : Form → List Char
  | equality name before after quote literal =>
    name.toList ++ before ++ ['=', '='] ++ after ++ [quote] ++ literal.toList ++ [quote]
  | truthy name => name.toList
  | falsy blanks name => '!' :: (blanks ++ name.toList)

/-- White space may stand around the signs, and the literal is free of the quote around it. -/
def Valid : Form → Prop
  | equality name before after quote literal => IsName name ∧ Blank before ∧ Blank after ∧
      (quote = '\'' ∨ quote = '"') ∧ quote ∉ literal.toList
  | truthy name => IsName name
  | falsy blanks name => Blank blanks ∧ IsName name

def condition : Form → Condition
  | equality name _ _ _ literal => .equality name literal
  | truthy name => .truthy name
  | falsy _ name => .falsy name

theorem source_equality (name : String) (before after : List Char) (quote : Char) (literal : String) :
    (equality name before after quote literal).source = name.toList ++
      (before ++ '=' :: '=' :: (after ++ quote :: (literal.toList ++ [quote]))) := by
  simp [source]

end Form

/-! The characters of each form. -/

theorem isWord_sign : isWord '=' = false := by decide

theorem isBlank_sign : isBlank '=' = false := by decide

theorem isBlank_quote {quote : Char} (quoted : quote = '\'' ∨ quote = '"') : isBlank quote = false := by
  rcases quoted with rfl | rfl <;> decide

/-! Reading each form. -/

theorem name?_eq_some_iff {s : List Char} {name : String} :
    name? s = some name ↔ s = name.toList ∧ IsName name := by
  rw [Template.name?_eq_some, eq_comm]
  rfl

theorem IsName.takeWhile_append {name : String} (named : IsName name) {rest : List Char}
    (stop : ∀ c, rest.head? = some c → isWord c = false) :
    (name.toList ++ rest).takeWhile isWord = name.toList ∧
      (name.toList ++ rest).dropWhile isWord = rest := by
  rw [List.takeWhile_append_of_pos named.2, List.dropWhile_append_of_pos named.2]
  cases rest with
  | nil => simp
  | cons c rest => simp [stop c rfl]

theorem IsName.isBlank_eq_false {name : String} (named : IsName name) {c : Char}
    (member : c ∈ name.toList) : isBlank c = false := by
  rw [Bool.eq_false_iff]
  intro blank
  have word := named.2 c member
  rw [isWord_of_isBlank blank] at word
  cases word

/-- No character of white space belongs to a name, so a name ends where white space or a sign begins. -/
theorem head_of_blank_append {before : List Char} {c : Char} {rest : List Char} (blank : Blank before)
    (sign : isWord c = false) : ∀ d, (before ++ c :: rest).head? = some d → isWord d = false := by
  intro d head
  cases before with
  | nil =>
    cases head
    exact sign
  | cons e before =>
    cases head
    exact isWord_of_isBlank (blank d List.mem_cons_self)

theorem literal?_eq_some_iff {s : List Char} {literal : String} : literal? s = some literal ↔
    ∃ quote, (quote = '\'' ∨ quote = '"') ∧ quote ∉ literal.toList ∧
      s = quote :: (literal.toList ++ [quote]) := by
  cases s with
  | nil => simp [literal?]
  | cons quote s =>
    simp only [literal?, Bool.or_eq_true, decide_eq_true_eq]
    constructor
    · intro found
      split at found
      · next quoted =>
        split at found
        · next closed =>
          have whole : s.takeWhile (· ≠ quote) ++ s.dropWhile (· ≠ quote) = s :=
            List.takeWhile_append_dropWhile
          rw [closed] at whole
          cases found
          rw [String.toList_ofList]
          refine ⟨quote, quoted, fun member => ?_, by rw [whole]⟩
          simpa using List.mem_takeWhile_imp member
        · cases found
      · cases found
    · rintro ⟨quote', quoted, free, same⟩
      obtain ⟨rfl, rfl⟩ := List.cons.inj same
      have inside : ∀ c ∈ literal.toList, decide (c ≠ quote) = true := by
        intro c member
        rw [decide_eq_true_eq]
        rintro rfl
        exact free member
      rw [if_pos quoted, List.takeWhile_append_of_pos inside, List.dropWhile_append_of_pos inside]
      simp

theorem equality?_eq_some_iff {s : List Char} {c : Condition} : equality? s = some c ↔
    ∃ name before after quote literal, (Form.equality name before after quote literal).Valid ∧
      s = (Form.equality name before after quote literal).source ∧ c = .equality name literal := by
  simp only [equality?, Option.bind_eq_bind, Option.bind_eq_some_iff, name?_eq_some_iff,
    dropStart?_eq_some, literal?_eq_some_iff, Option.pure_def, Option.some.injEq]
  constructor
  · rintro ⟨name, ⟨run, named⟩, rest, signs, literal, ⟨quote, quoted, free, closed⟩, rfl⟩
    obtain ⟨before, blank, first, -⟩ := exists_trimStart (s.dropWhile isWord)
    obtain ⟨after, blank', second, -⟩ := exists_trimStart rest
    refine ⟨name, before, after, quote, literal, ⟨named, blank, blank', quoted, free⟩, ?_, rfl⟩
    have whole : s.takeWhile isWord ++ s.dropWhile isWord = s := List.takeWhile_append_dropWhile
    rw [run, first, signs, second, closed] at whole
    rw [← whole]
    simp [Form.source]
  · rintro ⟨name, before, after, quote, literal, ⟨named, blank, blank', quoted, free⟩, rfl, rfl⟩
    obtain ⟨run, others⟩ := named.takeWhile_append (head_of_blank_append blank isWord_sign)
    rw [Form.source_equality, run, others]
    refine ⟨name, ⟨rfl, named⟩, after ++ quote :: (literal.toList ++ [quote]), ?_, literal,
      ⟨quote, quoted, free, ?_⟩, rfl⟩
    · rw [trimStart_append_of_blank blank fun d head => by cases head; exact isBlank_sign]
      rfl
    · exact trimStart_append_of_blank blank' fun d head => by cases head; exact isBlank_quote quoted

theorem falsy?_eq_some_iff {s : List Char} {c : Condition} : falsy? s = some c ↔
    ∃ blanks name, (Form.falsy blanks name).Valid ∧ s = (Form.falsy blanks name).source ∧
      c = .falsy name := by
  constructor
  · intro found
    unfold falsy? at found
    split at found
    · next s =>
      obtain ⟨name, read, rfl⟩ := Option.map_eq_some_iff.mp found
      obtain ⟨run, named⟩ := name?_eq_some_iff.mp read
      obtain ⟨blanks, blank, whole, -⟩ := exists_trimStart s
      rw [run] at whole
      exact ⟨blanks, name, ⟨blank, named⟩, by rw [whole, Form.source], rfl⟩
    · cases found
  · rintro ⟨blanks, name, ⟨blank, named⟩, rfl, rfl⟩
    have start : trimStart (blanks ++ name.toList) = name.toList :=
      trimStart_append_of_blank blank fun c head => named.isBlank_eq_false (List.mem_of_head? head)
    exact Option.map_eq_some_iff.mpr ⟨name, by rw [start]; exact name?_eq_some_iff.mpr ⟨rfl, named⟩, rfl⟩

/-! One form at the most. -/

theorem IsName.exists_cons {name : String} (named : IsName name) :
    ∃ c rest, name.toList = c :: rest ∧ isWord c = true := by
  obtain ⟨c, rest, whole⟩ := List.exists_cons_of_ne_nil named.1
  exact ⟨c, rest, whole, named.2 c (whole ▸ List.mem_cons_self)⟩

namespace Form

theorem source_equality_ne_name {name : String} {before after : List Char} {quote : Char}
    {literal other : String} (named : IsName other) :
    (equality name before after quote literal).source ≠ other.toList := by
  intro same
  have sign : '=' ∈ other.toList := by simp [← same, source]
  have word := named.2 _ sign
  rw [isWord_sign] at word
  cases word

theorem source_falsy_ne {blanks : List Char} {name : String} (other : Form) (valid : other.Valid)
    (same : other.source = (falsy blanks name).source) : ∃ blanks' name', other = falsy blanks' name' := by
  have mark : isWord '!' = false := by decide
  cases other with
  | falsy blanks' name' => exact ⟨blanks', name', rfl⟩
  | truthy name' =>
    obtain ⟨c, rest, whole, word⟩ := IsName.exists_cons valid
    rw [source, whole, source] at same
    rw [(List.cons.inj same).1, mark] at word
    cases word
  | equality name' before after quote literal =>
    obtain ⟨c, rest, whole, word⟩ := IsName.exists_cons valid.1
    rw [source_equality, whole, source, List.cons_append] at same
    rw [(List.cons.inj same).1, mark] at word
    cases word

theorem unique_equality {name name' : String} {before before' after after' : List Char}
    {quote quote' : Char} {literal literal' : String}
    (valid : (equality name before after quote literal).Valid)
    (valid' : (equality name' before' after' quote' literal').Valid)
    (same : (equality name before after quote literal).source =
      (equality name' before' after' quote' literal').source) :
    equality name before after quote literal = equality name' before' after' quote' literal' := by
  -- Both are read the same, so the names and the literals are; the white space is cut off from the left.
  have first := equality?_eq_some_iff.mpr ⟨_, _, _, _, _, valid, rfl, rfl⟩
  have second := equality?_eq_some_iff.mpr ⟨_, _, _, _, _, valid', same, rfl⟩
  obtain ⟨rfl, rfl⟩ := Condition.equality.inj (Option.some.inj (first.symm.trans second))
  rw [source_equality, source_equality] at same
  have rest := List.append_cancel_left same
  have front := congrArg (List.takeWhile isBlank) rest
  rw [takeWhile_append_of_blank valid.2.1 fun d head => by cases head; exact isBlank_sign,
    takeWhile_append_of_blank valid'.2.1 fun d head => by cases head; exact isBlank_sign] at front
  subst front
  have rest := (List.cons.inj (List.cons.inj (List.append_cancel_left rest)).2).2
  have middle := congrArg (List.takeWhile isBlank) rest
  rw [takeWhile_append_of_blank valid.2.2.1 fun d head => by
      cases head; exact isBlank_quote valid.2.2.2.1,
    takeWhile_append_of_blank valid'.2.2.1 fun d head => by
      cases head; exact isBlank_quote valid'.2.2.2.1] at middle
  subst middle
  obtain ⟨rfl, -⟩ := List.cons.inj (List.append_cancel_left rest)
  rfl

/-- A text is written in one form at the most, and in one way. -/
theorem unique {a b : Form} (valid : a.Valid) (valid' : b.Valid) (same : a.source = b.source) :
    a = b := by
  cases a with
  | equality name before after quote literal =>
    cases b with
    | equality name' before' after' quote' literal' => exact unique_equality valid valid' same
    | truthy name' => exact absurd same (source_equality_ne_name valid')
    | falsy blanks' name' => obtain ⟨_, _, other⟩ := source_falsy_ne _ valid same; cases other
  | truthy name =>
    cases b with
    | equality name' before' after' quote' literal' =>
      exact absurd same.symm (source_equality_ne_name valid)
    | truthy name' => rw [String.toList_inj.mp same]
    | falsy blanks' name' => obtain ⟨_, _, other⟩ := source_falsy_ne _ valid same; cases other
  | falsy blanks name =>
    obtain ⟨blanks', name', rfl⟩ := source_falsy_ne b valid' same.symm
    have rest := (List.cons.inj same).2
    have front := congrArg (List.takeWhile isBlank) rest
    rw [takeWhile_append_of_blank valid.1 fun c head =>
        valid.2.isBlank_eq_false (List.mem_of_head? head),
      takeWhile_append_of_blank valid'.1 fun c head =>
        valid'.2.isBlank_eq_false (List.mem_of_head? head)] at front
    subst front
    rw [String.toList_inj.mp (List.append_cancel_left rest)]

end Form

/-! The order of the attempts. -/

/-- What is tried on a text, one after another. -/
def attempts : List (List Char → Option Condition) :=
  [equality?, fun s => (name? s).map truthy, falsy?]

theorem exists_attempt {form : Form} (valid : form.Valid) :
    ∃ f ∈ attempts, f form.source = some form.condition := by
  cases form with
  | equality name before after quote literal =>
    exact ⟨_, .head _, equality?_eq_some_iff.mpr ⟨_, _, _, _, _, valid, rfl, rfl⟩⟩
  | truthy name =>
    refine ⟨_, .tail _ (.head _), Option.map_eq_some_iff.mpr ⟨name, ?_, rfl⟩⟩
    exact name?_eq_some_iff.mpr ⟨rfl, valid⟩
  | falsy blanks name =>
    exact ⟨_, .tail _ (.tail _ (.head _)), falsy?_eq_some_iff.mpr ⟨_, _, valid, rfl, rfl⟩⟩

theorem form_of_attempt {f : List Char → Option Condition} (member : f ∈ attempts) {s : List Char}
    {c : Condition} (read : f s = some c) : ∃ form : Form, form.Valid ∧ s = form.source ∧ c = form.condition := by
  simp only [attempts, List.mem_cons, List.not_mem_nil, or_false] at member
  rcases member with rfl | rfl | rfl
  · obtain ⟨_, _, _, _, _, valid, whole, rfl⟩ := equality?_eq_some_iff.mp read
    exact ⟨_, valid, whole, rfl⟩
  · obtain ⟨name, named, rfl⟩ := Option.map_eq_some_iff.mp read
    obtain ⟨whole, valid⟩ := name?_eq_some_iff.mp named
    exact ⟨.truthy name, valid, whole, rfl⟩
  · obtain ⟨_, _, valid, whole, rfl⟩ := falsy?_eq_some_iff.mp read
    exact ⟨_, valid, whole, rfl⟩

theorem findSome?_eq_some_iff {fs : List (List Char → Option Condition)} (perm : fs.Perm attempts)
    {s : List Char} {c : Condition} : fs.findSome? (· s) = some c ↔
      ∃ form : Form, form.Valid ∧ s = form.source ∧ c = form.condition := by
  constructor
  · intro found
    obtain ⟨f, member, read⟩ := List.exists_of_findSome?_eq_some found
    exact form_of_attempt (perm.mem_iff.mp member) read
  · rintro ⟨form, valid, rfl, rfl⟩
    obtain ⟨f, member, read⟩ := exists_attempt valid
    -- Some attempt succeeds, and the first one that does reads the same form.
    cases found : fs.findSome? (· form.source) with
    | none =>
      have failed := List.findSome?_eq_none_iff.mp found f (perm.mem_iff.mpr member)
      rw [read] at failed
      cases failed
    | some c =>
      obtain ⟨g, member', read'⟩ := List.exists_of_findSome?_eq_some found
      obtain ⟨other, valid', same, rfl⟩ := form_of_attempt (perm.mem_iff.mp member') read'
      rw [Form.unique valid valid' same]

theorem ofTrimmed_eq {fs : List (List Char → Option Condition)} (perm : fs.Perm attempts)
    (s : List Char) :
    ofTrimmed s = (fs.findSome? (· s)).getD (unrecognized (String.ofList s)) := by
  have first : ofTrimmed s = (attempts.findSome? (· s)).getD (unrecognized (String.ofList s)) := by
    simp only [ofTrimmed, attempts, List.findSome?]
    cases equality? s with
    | some c => rfl
    | none => cases (name? s).map truthy <;> cases falsy? s <;> rfl
  rw [first]
  congr 1
  refine Option.ext fun c => ?_
  rw [findSome?_eq_some_iff (.refl attempts), findSome?_eq_some_iff perm]

theorem ofTrimmed_source {form : Form} (valid : form.Valid) : ofTrimmed form.source = form.condition := by
  rw [ofTrimmed_eq (.refl attempts), (findSome?_eq_some_iff (.refl attempts)).mpr ⟨form, valid, rfl, rfl⟩]
  rfl

theorem ofTrimmed_of_formless {s : List Char} (formless : ∀ form : Form, form.Valid → s ≠ form.source) :
    ofTrimmed s = unrecognized (String.ofList s) := by
  have failed : attempts.findSome? (· s) = none := by
    rw [Option.eq_none_iff_forall_ne_some]
    intro c found
    obtain ⟨form, valid, whole, -⟩ := (findSome?_eq_some_iff (.refl attempts)).mp found
    exact formless form valid whole
  rw [ofTrimmed_eq (.refl attempts), failed]
  rfl

/-- What a text is read as: the form that it has, or itself. -/
theorem parse_eq_iff {text : String} {c : Condition} : parse text = c ↔
    (∃ form : Form, form.Valid ∧ trim text.toList = form.source ∧ c = form.condition) ∨
      (∀ form : Form, form.Valid → trim text.toList ≠ form.source) ∧
        c = unrecognized (String.ofList (trim text.toList)) := by
  rw [parse]
  by_cases formed : ∃ form : Form, form.Valid ∧ trim text.toList = form.source
  · obtain ⟨form, valid, whole⟩ := formed
    rw [whole, ofTrimmed_source valid]
    constructor
    · rintro rfl
      exact .inl ⟨form, valid, rfl, rfl⟩
    · rintro (⟨other, valid', same, rfl⟩ | ⟨formless, -⟩)
      · rw [Form.unique valid valid' same]
      · exact absurd rfl (formless form valid)
  · have formless : ∀ form : Form, form.Valid → trim text.toList ≠ form.source :=
      fun form valid whole => formed ⟨form, valid, whole⟩
    rw [ofTrimmed_of_formless formless]
    constructor
    · rintro rfl
      exact .inr ⟨formless, rfl⟩
    · rintro (⟨form, valid, whole, -⟩ | ⟨-, rfl⟩)
      · exact absurd whole (formless form valid)
      · rfl

theorem parse_eq_equality_iff {text name literal : String} : parse text = .equality name literal ↔
    ∃ before after quote, (Form.equality name before after quote literal).Valid ∧
      trim text.toList = (Form.equality name before after quote literal).source := by
  rw [parse_eq_iff]
  constructor
  · rintro (⟨form, valid, whole, same⟩ | ⟨-, same⟩)
    · cases form with
      | equality name before after quote literal =>
        cases same
        exact ⟨before, after, quote, valid, whole⟩
      | truthy | falsy => cases same
    · cases same
  · rintro ⟨before, after, quote, valid, whole⟩
    exact .inl ⟨_, valid, whole, rfl⟩

theorem parse_eq_truthy_iff {text name : String} :
    parse text = .truthy name ↔ IsName name ∧ trim text.toList = name.toList := by
  rw [parse_eq_iff]
  constructor
  · rintro (⟨form, valid, whole, same⟩ | ⟨-, same⟩)
    · cases form with
      | truthy name =>
        cases same
        exact ⟨valid, whole⟩
      | equality | falsy => cases same
    · cases same
  · rintro ⟨valid, whole⟩
    exact .inl ⟨.truthy name, valid, whole, rfl⟩

theorem parse_eq_falsy_iff {text name : String} : parse text = .falsy name ↔
    ∃ blanks, (Form.falsy blanks name).Valid ∧ trim text.toList = (Form.falsy blanks name).source := by
  rw [parse_eq_iff]
  constructor
  · rintro (⟨form, valid, whole, same⟩ | ⟨-, same⟩)
    · cases form with
      | falsy blanks name =>
        cases same
        exact ⟨blanks, valid, whole⟩
      | equality | truthy => cases same
    · cases same
  · rintro ⟨blanks, valid, whole⟩
    exact .inl ⟨_, valid, whole, rfl⟩

theorem parse_eq_unrecognized_iff {text other : String} : parse text = .unrecognized other ↔
    other = String.ofList (trim text.toList) ∧
      ∀ form : Form, form.Valid → trim text.toList ≠ form.source := by
  rw [parse_eq_iff]
  constructor
  · rintro (⟨form, valid, whole, same⟩ | ⟨formless, same⟩)
    · cases form <;> cases same
    · cases same
      exact ⟨rfl, formless⟩
  · rintro ⟨rfl, formless⟩
    exact .inr ⟨formless, rfl⟩

/-! Braces around a condition. -/

theorem isTrimmed_braced (s : List Char) :
    IsTrimmed (Template.opening ++ s ++ Template.closing) where
  head c head := by
    cases head
    decide
  last c last := by
    rw [List.getLast?_append] at last
    cases last
    decide

theorem braced?_eq (s : List Char) : braced? (Template.opening ++ s ++ Template.closing) = some s := by
  have front : dropStart? ['{', '{'] (Template.opening ++ s ++ Template.closing) =
      some (s ++ Template.closing) := dropStart?_eq_some.mpr (List.append_assoc _ _ _)
  have back : dropStart? ['}', '}'] (s ++ Template.closing).reverse = some s.reverse :=
    dropStart?_eq_some.mpr (List.reverse_append)
  rw [braced?, front, Option.bind_eq_bind, Option.bind_some, back]
  simp

theorem parseWhen_braced (text : String) {before after : List Char} (blank : Blank before)
    (blank' : Blank after) :
    parseWhen (String.ofList (before ++ (Template.opening ++ text.toList ++ Template.closing) ++ after)) =
      parse text := by
  rw [parseWhen, String.toList_ofList, trim_eq blank blank' (isTrimmed_braced _)]
  simp only [braced?_eq, Option.getD_some]
  rfl

/-- No form begins with a brace. -/
theorem parseWhen_of_form {text : String} {form : Form} (valid : form.Valid)
    (whole : trim text.toList = form.source) : parseWhen text = parse text := by
  have first : ∃ c rest, form.source = c :: rest ∧ c ≠ '{' := by
    have apart {c : Char} (word : isWord c = true) : c ≠ '{' := by
      rintro rfl
      exact absurd word (by decide)
    cases form with
    | equality name before after quote literal =>
      obtain ⟨c, rest, start, word⟩ := IsName.exists_cons valid.1
      exact ⟨c, _, by rw [Form.source_equality, start]; rfl, apart word⟩
    | truthy name =>
      obtain ⟨c, rest, start, word⟩ := IsName.exists_cons valid
      exact ⟨c, rest, start, apart word⟩
    | falsy blanks name => exact ⟨'!', _, rfl, by decide⟩
  obtain ⟨c, rest, start, other⟩ := first
  have plain : braced? (trim text.toList) = none := by
    simp [braced?, whole, start, dropStart?, Ne.symm other]
  rw [parseWhen, plain, Option.getD_none, trim_of_isTrimmed (isTrimmed_trim _)]
  rfl

/-- A text is a condition exactly if it is written in one of three forms, apart from white space around
it; it has one of them at the most, in one way, and so the forms may be tried in any order. Double braces
around a condition, which may have white space around them, make no difference to it. -/
theorem parse_grammar (text : String) :
    (∀ name literal, parse text = .equality name literal ↔ ∃ before after quote,
      (Form.equality name before after quote literal).Valid ∧
        trim text.toList = (Form.equality name before after quote literal).source) ∧
    (∀ name, parse text = .truthy name ↔ IsName name ∧ trim text.toList = name.toList) ∧
    (∀ name, parse text = .falsy name ↔ ∃ blanks, (Form.falsy blanks name).Valid ∧
      trim text.toList = (Form.falsy blanks name).source) ∧
    (∀ other, parse text = .unrecognized other ↔ other = String.ofList (trim text.toList) ∧
      ∀ form : Form, form.Valid → trim text.toList ≠ form.source) ∧
    (∀ a b : Form, a.Valid → b.Valid → trim text.toList = a.source → trim text.toList = b.source → a = b) ∧
    (∀ fs : List (List Char → Option Condition), fs.Perm attempts →
      parse text = (fs.findSome? (· (trim text.toList))).getD
        (unrecognized (String.ofList (trim text.toList)))) ∧
    (∀ before after, Blank before → Blank after →
      parseWhen (String.ofList
        (before ++ (Template.opening ++ text.toList ++ Template.closing) ++ after)) = parse text) ∧
    ((∀ other, parse text ≠ .unrecognized other) → parseWhen text = parse text) := by
  refine ⟨fun name literal => parse_eq_equality_iff, fun name => parse_eq_truthy_iff,
    fun name => parse_eq_falsy_iff, fun other => parse_eq_unrecognized_iff, ?_, ?_, ?_, ?_⟩
  · intro a b valid valid' whole whole'
    exact Form.unique valid valid' (whole.symm.trans whole')
  · intro fs perm
    exact ofTrimmed_eq perm _
  · intro before after blank blank'
    exact parseWhen_braced text blank blank'
  · intro recognized
    rcases parse_eq_iff.mp (Eq.refl (parse text)) with ⟨form, valid, whole, -⟩ | ⟨-, same⟩
    · exact parseWhen_of_form valid whole
    · exact absurd same (recognized _)

/-- A literal may have the other quote in it, and a brace too many is not part of the delimiters. -/
example : parse " name== \"it's\" " = .equality "name" "it's" ∧
    parseWhen "\x7b\x7b name \x7d\x7d\x7d" = .unrecognized "name \x7d" := by decide +kernel

end Scaffold.Condition
