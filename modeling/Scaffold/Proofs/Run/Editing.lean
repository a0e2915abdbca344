import Mathlib.Data.List.Infix
import Scaffold.Proofs.Files.Rewriting
import Scaffold.Proofs.Pattern.Numbering
import Scaffold.Proofs.Run.FileActions
import Scaffold.Proofs.Run.Perform
import Scaffold.Proofs.Step.Imports
import Scaffold.Proofs.Step.Readiness
import Scaffold.Proofs.Template.TwoPass

/-! Editing a file with content around its old text, and putting the old text back alone. -/
namespace Scaffold

open Edit Files Run Text

/-! Content that is the old text alone. -/

/-- A step whose content is a placeholder for the old text, without anything to look for in it. -/
structure Blueprint.Step.Reinserts (s : Blueprint.Step) (path : String) : Prop where
  type : s.type = "file"
  action : s.action = some "edit"
  target : s.target = some (.single path)
  content : s.content = some (String.ofList contentPlaceholder)
  plain : s.find = none ∨ s.replacement = none

/-- The placeholder for the old text is neither that of a variable nor a block. -/
theorem Template.resolve_contentPlaceholder (vars : Variables) :
    resolve vars (String.ofList contentPlaceholder) = ⟨String.ofList contentPlaceholder, []⟩ := by
  have full : contentPlaceholder ≠ [] := by decide
  have noBlocks : ∀ s ∈ contentPlaceholder.tails, block? s = none := by decide +kernel
  have noHoles : ∀ s ∈ contentPlaceholder.tails, placeholder? s = none := by decide +kernel
  -- A text whose ends are no beginning of a token is cut into itself alone.
  have whole {α : Type} {f : TokenForm α} (free : ∀ s ∈ contentPlaceholder.tails, ¬ f.StartsAt s) :
      f.Cuts contentPlaceholder [.plain contentPlaceholder] :=
    .ofPlain full fun before s split _ => free s ((List.mem_tails _ _).mpr ⟨before, split.symm⟩)
  have blockCut : blocks.Cuts contentPlaceholder [.plain contentPlaceholder] := by
    refine whole ?_
    rintro _ member ⟨b, after, valid, rfl⟩
    have found : block? (blocks.source b ++ after) = some ⟨b.condition, b.body, after⟩ :=
      block?_eq_some.mpr ⟨b.blanks, valid, rfl⟩
    rw [noBlocks _ member] at found
    cases found
  have holeCut : placeholders.Cuts contentPlaceholder [.plain contentPlaceholder] := by
    refine whole ?_
    rintro _ member ⟨name, after, valid, rfl⟩
    have found := placeholder?_eq_some.mpr ⟨valid, Eq.refl (placeholders.source name ++ after)⟩
    rw [noHoles _ member] at found
    cases found
  rw [resolve, String.toList_ofList, resolveBlocks_eq vars blockCut]
  ext1
  · simp [kept, fill_eq vars holeCut, inserted]
  · simp [kept, refused?, fill_eq vars holeCut, unknown?]

namespace ResolvedStep

open Resolving

variable {vars : Variables} {root path : String} {s : Blueprint.Step} {step : ResolvedStep}

theorem action_of_reinserts (reinserts : s.Reinserts path) (ok : (ofStep vars root s).result = .ok step) :
    step.action = .file (.edit (place vars root path) (String.ofList contentPlaceholder) none) := by
  obtain ⟨type, action, target, content, plain⟩ := reinserts
  -- The rest of the step has no part in what its action is.
  obtain ⟨a, acts, ok⟩ := bind_eq_ok ok
  obtain ⟨check, -, ok⟩ := bind_eq_ok ok
  obtain ⟨title, -, ok⟩ := bind_eq_ok ok
  obtain ⟨description, -, ok⟩ := bind_eq_ok ok
  cases ok
  rw [actionOf, type] at acts
  obtain ⟨edit, makes, acts⟩ := bind_eq_ok acts
  cases acts
  rw [fileActionOf, action, target] at makes
  obtain ⟨name, named, makes⟩ := bind_eq_ok makes
  cases named
  obtain ⟨aim, aimed, makes⟩ := bind_eq_ok makes
  cases aimed
  obtain ⟨change, unchanged, makes⟩ := bind_eq_ok makes
  obtain ⟨p, placed, makes⟩ := bind_eq_ok makes
  obtain ⟨c, filled, makes⟩ := bind_eq_ok makes
  rw [contentOf, content] at filled
  have none : changeOf vars s = pure none := by
    unfold changeOf
    rcases plain with nothing | nothing
    · rw [nothing]
    · rw [nothing]
      cases s.find <;> rfl
  rw [none] at unchanged
  cases unchanged
  cases placed
  cases filled
  cases makes
  rw [Template.resolve_contentPlaceholder]
  rfl

end ResolvedStep

/-! Editing. -/

namespace FileAction

variable {w : World} {path text : String}

/-- Where a text is read the directories are there. -/
theorem ensureParent_of_readText (known : readText w.files w.directory path = .ok text) :
    (ensureParent path).outcome w = (.ok (), w) := by
  obtain ⟨q, -, located, -⟩ := exists_file_of_readText known
  unfold ensureParent
  split
  · next parent found =>
    split
    · next filled =>
      have inside := isDirectory_parent located found (by simpa using filled)
      rw [outcome_onFiles_of_run (run_makeDirectories_of_isDirectory w.directory inside)]
      rfl
    · rfl
  · rfl

theorem editFile_of_readText {content new : String} {change : Option FindReplace}
    (known : readText w.files w.directory path = .ok text) (made : edited text content change = .ok new) :
    (editFile path content change).outcome w = (writeText path new).outcome w := by
  rw [editFile, outcome_bind, ensureParent_of_readText known]
  dsimp only
  rw [outcome_bind, existingText, outcome_files_bind, outcome_directory_bind, known]
  dsimp only
  rw [outcome_pure]
  dsimp only
  rw [outcome_bind, outcome_liftM, made]

/-- A text without import statements is written back as it is. -/
theorem editFile_back (known : readText w.files w.directory path = .ok text)
    (free : ¬ HasImport text.toList) :
    (editFile path (String.ofList contentPlaceholder) none).outcome w = (writeText path text).outcome w := by
  have same : fillContent text (String.ofList contentPlaceholder) = text := by
    rw [← String.toList_inj, toList_fillContent_placeholder, convertImports_of_not_hasImport free]
  exact editFile_of_readText known (congrArg Except.ok same)

theorem files_editFile_back (known : readText w.files w.directory path = .ok text)
    (free : ¬ HasImport text.toList) :
    ((editFile path (String.ofList contentPlaceholder) none).outcome w).2.files = w.files := by
  rcases wrote : (write w.directory path text.toUTF8).run w.files with ⟨r, u⟩
  rw [editFile_back known free, writeText, outcome_onFiles_of_run wrote]
  exact run_write_back known wrote

theorem editFile_back_of_proper (proper : w.files.Proper)
    (known : readText w.files w.directory path = .ok text) (free : ¬ HasImport text.toList) :
    (editFile path (String.ofList contentPlaceholder) none).outcome w = (.ok (), w) := by
  rw [editFile_back known free, writeText, outcome_onFiles_of_run (run_write_back_of_proper proper known)]
  rfl

end FileAction

namespace Run

theorem files_check (c : StepCheck) (w : World) : ((check c).outcome w).2.files = w.files := by
  cases c with
  | «exists» path =>
    rw [check, outcome_files_bind, outcome_directory_bind]
    split <;> rfl
  | contains path text =>
    rw [check, outcome_files_bind, outcome_directory_bind]
    split
    · split <;> rfl
    · rfl
  | unknown test => rfl

theorem outcome_takeAction_file (shell : Shell) (action : FileAction) (w : World) :
    (takeAction shell (.file action)).outcome w =
      ((action.take.outcome w).1.map fun _ => none, (action.take.outcome w).2) := by
  rw [takeAction, outcome_bind]
  rcases action.take.outcome w with ⟨e | _, v⟩ <;> rfl

theorem files_executeStep {settings : Settings} {step : ResolvedStep} (real : settings.isDryRun = false)
    (w : World) : ((executeStep settings step).outcome w).2.files =
      ((takeAction settings.shell step.action).outcome w).2.files := by
  rw [executeStep, real, if_neg Bool.false_ne_true, outcome_bind]
  rcases (takeAction settings.shell step.action).outcome w with ⟨e | code, v⟩
  · rfl
  · cases step.check with
    | none => rfl
    | some c =>
      change ((check c >>= fun _ => (pure ⟨step.title, code, none⟩ : Run StepResult)).outcome v).2.files =
        v.files
      refine Eq.trans ?_ (files_check c v)
      rw [outcome_bind]
      rcases (check c).outcome v with ⟨e | _, v'⟩ <;> rfl

variable {settings : Settings} {vars : Variables} {s : Blueprint.Step} {w : World} {path text : String}

/-- A step that puts the old text back leaves all files as they are. -/
theorem files_perform_of_reinserts (reinserts : s.Reinserts path)
    (known : readText w.files w.directory (ResolvedStep.place vars settings.root path) = .ok text)
    (free : ¬ HasImport text.toList) : ((perform settings vars s).outcome w).2.files = w.files := by
  rw [outcome_perform]
  cases read : resolution settings vars s with
  | error e => rfl
  | ok step =>
    dsimp only
    cases dry : settings.isDryRun with
    | true =>
      rw [executeStep, dry]
      rfl
    | false =>
      rw [files_executeStep dry, ResolvedStep.action_of_reinserts reinserts read, outcome_takeAction_file]
      exact FileAction.files_editFile_back known free

theorem takeAction_of_reinserts (reinserts : s.Reinserts path) (proper : w.files.Proper)
    (known : readText w.files w.directory (ResolvedStep.place vars settings.root path) = .ok text)
    (free : ¬ HasImport text.toList) {step : ResolvedStep} (read : resolution settings vars s = .ok step) :
    (takeAction settings.shell step.action).outcome w = (.ok none, w) := by
  rw [ResolvedStep.action_of_reinserts reinserts read, outcome_takeAction_file, FileAction.take,
    FileAction.editFile_back_of_proper proper known free]
  rfl

/-- Content has the old text just as it is in the place of its first placeholder, and then the import
statements of the whole become lines, so that no statement is left. With a placeholder alone it makes no
difference whether this is done once or twice, and a step with such content leaves a file without import
statements as it is, whatever the variables are, unless the step also has something to look for and to
put in its place. -/
theorem template_edit (existing content : String) :
    (∃ merged parts, Merged existing.toList content.toList merged ∧
      (∀ other, Merged existing.toList content.toList other → other = merged) ∧
      imports.Cuts merged parts ∧ (∀ other, imports.Cuts merged other → other = parts) ∧
      (fillContent existing content).toList = parts.flatMap converted ∧
      (¬ HasImport merged → (fillContent existing content).toList = merged)) ∧
    ¬ HasImport (fillContent existing content).toList ∧
    fillContent (fillContent existing (String.ofList contentPlaceholder)) (String.ofList contentPlaceholder) =
      fillContent existing (String.ofList contentPlaceholder) ∧
    ∀ (settings : Settings) (vars : Variables) (s : Blueprint.Step) (path : String) (w : World),
      s.Reinserts path →
      readText w.files w.directory (ResolvedStep.place vars settings.root path) = .ok existing →
      ¬ HasImport existing.toList →
      ((perform settings vars s).outcome w).2.files = w.files ∧
      (w.files.Proper → ∀ step, resolution settings vars s = .ok step →
        (takeAction settings.shell step.action).outcome w = (.ok none, w)) := by
  have whole : Merged existing.toList content.toList _ := merged_iff.mpr rfl
  obtain ⟨parts, cut⟩ := TokenForm.exists_cuts imports_definite
    (replaceFirst contentPlaceholder existing.toList content.toList)
  have filled := toList_fillContent whole
  refine ⟨⟨_, parts, whole, fun other => merged_iff.mp, cut, fun _ other => cut.unique imports_definite other,
    filled.trans (convertImports_eq cut), fun free => ?_⟩, ?_, ?_, ?_⟩
  · rw [filled, convertImports_of_not_hasImport free]
  · rw [filled]
    exact not_hasImport_convertImports _
  · rw [← String.toList_inj, toList_fillContent_placeholder, toList_fillContent_placeholder]
    exact convertImports_of_not_hasImport (not_hasImport_convertImports _)
  · intro settings vars s path w reinserts known free
    exact ⟨files_perform_of_reinserts reinserts known free,
      fun proper step read => takeAction_of_reinserts reinserts proper known free read⟩

/-- The old text has placeholders and half an import statement, which stay. -/
theorem template_edit_of_placeholders :
    let existing := "\x7b\x7bname\x7d\x7d \x7b\x7bfile-content\x7d\x7d @import a"
    let t := FileTree.empty.put ["a.txt"] (.file existing.toUTF8 false)
    let w : World := ⟨⟨t, [], .typed []⟩, [], fun _ => 0, .terminal, []⟩
    let settings : Settings := ⟨".", false, fun _ here => ⟨some 0, "", [], here⟩⟩
    let vars : Variables := (∅ : Variables).insert "name" (.text "a")
    let s : Blueprint.Step := { plainStep "file" "Edit" none with
      action := some "edit", target := some (.single "\x7b\x7bname\x7d\x7d.txt"),
      content := some (String.ofList contentPlaceholder) }
    s.Reinserts "\x7b\x7bname\x7d\x7d.txt" ∧
    readText w.files w.directory (ResolvedStep.place vars settings.root "\x7b\x7bname\x7d\x7d.txt") = .ok existing ∧
    ¬ HasImport existing.toList ∧ w.files.Proper ∧
    ((perform settings vars s).outcome w).2.files = w.files ∧
    ∃ step, resolution settings vars s = .ok step ∧
      (takeAction settings.shell step.action).outcome w = (.ok none, w) := by
  intro existing t w settings vars s
  have reinserts : s.Reinserts "\x7b\x7bname\x7d\x7d.txt" := ⟨rfl, rfl, rfl, rfl, .inl rfl⟩
  have known : readText w.files w.directory
      (ResolvedStep.place vars settings.root "\x7b\x7bname\x7d\x7d.txt") = .ok existing := by decide +kernel
  have free : ¬ HasImport existing.toList := by decide +kernel
  have proper : w.files.Proper := .single _ _ _
  have read : resolution settings vars s = .ok ⟨"Edit", none,
      .file (.edit "./a.txt" (String.ofList contentPlaceholder) none), none⟩ := by decide +kernel
  obtain ⟨files, succeeds⟩ := (template_edit existing "").2.2.2 settings vars s _ w reinserts known free
  exact ⟨reinserts, known, free, proper, files, _, read, succeeds proper _ read⟩

/-- Something to look for and to put in its place comes before content. -/
theorem edit_with_find_changes_text :
    let t := FileTree.empty.put ["a.txt"] (.file "foo".toUTF8 false)
    let w : World := ⟨⟨t, [], .typed []⟩, [], fun _ => 0, .terminal, []⟩
    let settings : Settings := ⟨".", false, fun _ here => ⟨some 0, "", [], here⟩⟩
    let s : Blueprint.Step := { plainStep "file" "Edit" none with
      action := some "edit", target := some (.single "a.txt"),
      content := some (String.ofList contentPlaceholder), find := some "o", replacement := some "a" }
    readText w.files w.directory "./a.txt" = .ok "foo" ∧ ¬ HasImport "foo".toList ∧
    readText ((perform settings ∅ s).outcome w).2.files w.directory "./a.txt" = .ok "faa" := by
  intro t w settings s
  have known : readText w.files w.directory "./a.txt" = .ok "foo" := by decide +kernel
  have free : ¬ HasImport "foo".toList := by decide +kernel
  refine ⟨known, free, ?_⟩
  have read : resolution settings ∅ s = .ok ⟨"Edit", none,
      .file (.edit "./a.txt" (String.ofList contentPlaceholder) (some ⟨"o", "a"⟩)), none⟩ := by decide +kernel
  have found : findReplace "foo" ⟨"o", "a"⟩ = .ok "faa" := by
    let e : Pattern.Expr := .char (.single 111)
    have run : Pattern.Read.pattern.run ⟨"o".toList, {}, 0, []⟩ = .ok (e, ⟨[], {}, 0, []⟩) := by
      decide +kernel
    have layout : Pattern.Layout.ofExpr e = .text 1 := by
      rw [Pattern.Layout.ofExpr]
      rfl
    have fits : e.fits = true := by
      refine Pattern.Expr.fits_iff.mpr ⟨?_, ?_⟩
      · simp only [Pattern.roomFor, layout, Pattern.addLayout]
        decide +kernel
      · simp only [Pattern.roomFor, layout, Pattern.addLayout]
        decide +kernel
    have parsed : Pattern.parse "o" = .ok ⟨.ofExpr e, 0, []⟩ :=
      Pattern.parse_eq_ok_iff.mpr ⟨e, _, run, fits, rfl⟩
    have replaced : (⟨.ofExpr e, 0, []⟩ : Pattern).replaceAll "a" "foo" = "faa" := by decide +kernel
    rw [findReplace, parsed]
    exact congrArg Except.ok replaced
  have edit : (FileAction.editFile "./a.txt" (String.ofList contentPlaceholder) (some ⟨"o", "a"⟩)).outcome w =
      (FileAction.writeText "./a.txt" "faa").outcome w := FileAction.editFile_of_readText known found
  rw [outcome_perform, read]
  dsimp only
  rw [files_executeStep rfl, outcome_takeAction_file, FileAction.take, edit]
  decide +kernel

end Run

end Scaffold
