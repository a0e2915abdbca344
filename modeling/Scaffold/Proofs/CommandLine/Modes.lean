import Scaffold.CommandLine.Program
import Scaffold.Proofs.Run.Commands

/-! The mode of the display. It comes in only where events are printed: a run without an operator comes
to the same in every mode, and a quiet one prints what the others do without notes and progress. -/
namespace Scaffold

/-- Notes and the progress by phases and steps. -/
def Event.isDetail : Event → Bool
  | .said .note _ | .phase _ _ | .step _ _ => true
  | _ => false

/-- Events that the display has words for, unlike the output of commands and the log. -/
def Event.isWorded : Event → Bool
  | .printed _ | .logged _ => false
  | _ => true

namespace Display

theorem print_verbose (e : Event) : (plain .verbose).print e = (plain .normal).print e := by
  cases e with
  | said severity => cases severity <;> rfl
  | _ => rfl

theorem print_quiet (e : Event) :
    (plain .quiet).print e = if e.isDetail then [] else (plain .normal).print e := by
  cases e with
  | said severity => cases severity <;> rfl
  | _ => rfl

/-- Details go to the output. -/
theorem print_of_isDetail {e : Event} (detail : e.isDetail = true) :
    ∃ bytes, (plain .normal).print e = [.out bytes] := by
  cases e with
  | said severity =>
    cases severity with
    | note => exact ⟨_, rfl⟩
    | _ => cases detail
  | phase => exact ⟨_, rfl⟩
  | step => exact ⟨_, rfl⟩
  | _ => cases detail

end Display

/-! A run does not look at what it has shown. -/

namespace Run

variable {α β : Type}

theorem Within.mapM {events : Event → Prop} {errors : Error → Prop} {f : α → Run β}
    (each : ∀ a, Within events errors (f a)) (xs : List α) : Within events errors (xs.mapM f) := by
  induction xs with
  | nil =>
    rw [List.mapM_nil]
    exact .pure _
  | cons a xs ih =>
    rw [List.mapM_cons]
    exact .bind (each a) fun b => .bind ih fun bs => .pure _

theorem Within.framing {events : Event → Prop} {errors : Error → Prop} {x : Run α}
    (within : Within events errors x) : Framed x := within.mono (fun _ _ => trivial) fun _ _ => trivial

theorem framed_ask (q : Question) : Framed (ask q) := .ask trivial fun _ _ _ => trivial

theorem framed_collect (b : Blueprint) : Framed (collect b) := by
  refine .bind (.mapM (fun p => ?_) _) fun _ => .pure _
  exact .bind (framed_resolved _) fun q => .bind (framed_ask q) fun _ => .pure _

variable (settings : Settings) (vars : Variables)

theorem framed_takeStep (s : Blueprint.Step) : Framed (takeStep settings vars s) := by
  refine .bind (unprinted_warned _).framing fun title => ?_
  refine .bind (unprinted_meets vars s.condition).framing fun met => ?_
  refine .ite ?_ (unprinted_say _ _).framing
  refine .bind ?_ fun result => .pure _
  exact .tryCatch (framed_resolveAndExecute settings vars s) fun _ _ => .throw trivial

theorem framed_takePhase (p : Blueprint.Phase) : Framed (takePhase settings vars p) := by
  refine .bind (unprinted_warned _).framing fun title => ?_
  refine .bind (unprinted_meets vars p.condition).framing fun met => ?_
  refine .ite ?_ (unprinted_say _ _).framing
  refine .bind (unprinted_texts vars p.description).framing fun description => ?_
  exact .bind (.emit trivial) fun _ => .bind (.mapM (framed_takeStep settings vars) _) fun _ => .pure _

theorem framed_workflow (b : Blueprint) : Framed (workflow settings vars b) := by
  refine .bind .now fun start => .bind (unprinted_showHeader vars b).framing fun _ => ?_
  refine .bind (.mapM (framed_takePhase settings vars) _) fun ps => .bind .now fun stop => ?_
  refine .bind (.emit trivial) fun _ => .bind (unprinted_warned _).framing fun message => ?_
  exact (unprinted_say _ _).framing

/-- The answers to all prompts, and what running the phases with them comes to. -/
def session (b : Blueprint) : Run (Variables × Except Error Completed) := do
  let vars ← collect b
  let result ← tryCatch (Except.ok <$> workflow settings vars b) fun e => pure (.error e)
  return (vars, result)

theorem framed_session (b : Blueprint) : Framed (session settings b) := by
  refine .bind (framed_collect b) fun vars => .bind (.tryCatch ?_ fun e _ => .pure _) fun r => .pure _
  exact .bind (framed_workflow settings vars b) fun c => .pure _

end Run

namespace CommandLine

/-- The pieces that events are printed in, each with its event. -/
def pieces (d : Display) (f : LogFilter) (t : Transcript) : List (Event × Printed) :=
  t.flatMap fun e => (lines d f e).map (e, ·)

section Pieces

variable (f : LogFilter) (t : Transcript)

theorem map_snd_pieces (d : Display) : (pieces d f t).map Prod.snd = t.flatMap (lines d f) := by
  rw [pieces, List.map_flatMap]
  refine congrArg (t.flatMap ·) (funext fun e => ?_)
  rw [List.map_map]
  exact List.map_id _

theorem lines_verbose (e : Event) : lines (.plain .verbose) f e = lines (.plain .normal) f e := by
  cases e with
  | logged => rfl
  | _ => simp only [lines, Display.print_verbose]

theorem lines_quiet (e : Event) :
    lines (.plain .quiet) f e = if e.isDetail then [] else lines (.plain .normal) f e := by
  cases e with
  | logged => rfl
  | _ => simp only [lines, Display.print_quiet]

theorem pieces_verbose : pieces (.plain .verbose) f t = pieces (.plain .normal) f t :=
  congrArg (t.flatMap ·) (funext fun e => by rw [lines_verbose])

theorem pieces_quiet :
    pieces (.plain .quiet) f t = (pieces (.plain .normal) f t).filter fun p => !p.1.isDetail := by
  rw [pieces, pieces, List.filter_flatMap]
  refine congrArg (t.flatMap ·) (funext fun e => ?_)
  rw [lines_quiet]
  cases detail : e.isDetail with
  | true => simp [detail]
  | false =>
    refine (List.filter_eq_self.mpr fun p member => ?_).symm
    obtain ⟨_, -, rfl⟩ := List.mem_map.mp member
    simp [detail]

theorem out_of_isDetail {p : Event × Printed} (member : p ∈ pieces (.plain .normal) f t)
    (detail : p.1.isDetail = true) : ∃ bytes, p.2 = .out bytes := by
  obtain ⟨e, -, here⟩ := List.mem_flatMap.mp member
  obtain ⟨q, line, rfl⟩ := List.mem_map.mp here
  obtain ⟨bytes, printed⟩ := Display.print_of_isDetail detail
  cases e with
  | logged => cases detail
  | _ =>
    simp only [lines, printed, List.mem_singleton] at line
    exact ⟨bytes, line⟩

end Pieces

theorem errBytes_filter {ps : List (Event × Printed)} {keep : Event × Printed → Bool}
    (dropped : ∀ p ∈ ps, keep p = false → ∃ bytes, p.2 = .out bytes) :
    Printed.errBytes ((ps.filter keep).map Prod.snd) = Printed.errBytes (ps.map Prod.snd) := by
  induction ps with
  | nil => rfl
  | cons p ps ih =>
    have later := ih fun q member => dropped q (List.mem_cons_of_mem p member)
    cases kept : keep p with
    | true =>
      rw [List.filter_cons_of_pos kept, List.map_cons, List.map_cons, Printed.errBytes,
        List.flatMap_cons, ← Printed.errBytes, later]
      rfl
    | false =>
      obtain ⟨bytes, out⟩ := dropped p List.mem_cons_self kept
      rw [List.filter_cons_of_neg (by simp [kept]), later, List.map_cons, out]
      rfl

/-! Arguments that differ in the mode. -/

def flagsOfMode : Mode → List Flag
  | .verbose => [.verbose]
  | .normal => []
  | .quiet => [.quiet]

namespace Arguments

/-- The same arguments for another mode. -/
def inMode (a : Arguments) (m : Mode) : Arguments :=
  { a with flags := (a.flags.filter fun f => f ≠ .verbose && f ≠ .quiet) ++ flagsOfMode m }

variable (a : Arguments) (m : Mode)

theorem has_inMode {f : Flag} (other : f ≠ .verbose ∧ f ≠ .quiet) : (a.inMode m).has f = a.has f := by
  rw [Bool.eq_iff_iff, has, has, List.contains_iff_mem, List.contains_iff_mem, inMode,
    List.mem_append, List.mem_filter]
  have foreign : f ∉ flagsOfMode m := by
    cases m <;> simp [flagsOfMode, other]
  simp [foreign, other]

@[simp] theorem mode_inMode : (a.inMode m).mode = m := by
  cases m <;> simp [mode, has, inMode, flagsOfMode]

end Arguments

def Situation.settings (s : Situation) (a : Arguments) : Settings := ⟨s.root a, a.has .dryRun, s.shell⟩

/-- All that a run shows. An error is shown at its end. -/
def shown (s : Situation) (a : Arguments) : Transcript :=
  let (result, w) := (runBlueprint s a).run (s.world a)
  w.transcript ++ match result with
    | .ok _ => []
    | .error e => [.said .error e.message]

/-- The pieces that a run prints. -/
def printedPieces (s : Situation) (a : Arguments) : List (Event × Printed) :=
  pieces (s.display a) (s.logFilter a) (shown s a)

theorem printed_runArguments (s : Situation) (a : Arguments) :
    (runArguments s a).printed = (printedPieces s a).map Prod.snd := by
  rw [printedPieces, map_snd_pieces, runArguments, shown]
  rcases (runBlueprint s a).run (s.world a) with ⟨e | u, w⟩ <;> rfl

section InMode

variable (s : Situation) (a : Arguments) (m : Mode)

theorem isInteractive_inMode : s.isInteractive (a.inMode m) = s.isInteractive a := by
  rw [Situation.isInteractive, a.has_inMode m (by decide)]
  rfl

theorem settings_inMode : s.settings (a.inMode m) = s.settings a := by
  rw [Situation.settings, a.has_inMode m (by decide)]
  rfl

theorem world_inMode : s.world (a.inMode m) = s.world a := by
  rw [Situation.world, Situation.respondent, isInteractive_inMode]
  rfl

theorem logFilter_inMode : s.logFilter (a.inMode m) = s.logFilter a := by
  rw [Situation.logFilter, a.has_inMode m (by decide)]
  rfl

theorem runBlueprint_inMode : runBlueprint s (a.inMode m) = runBlueprint s a := by
  rw [runBlueprint, a.has_inMode m (by decide)]
  rfl

theorem shown_inMode : shown s (a.inMode m) = shown s a := by
  rw [shown, runBlueprint_inMode, world_inMode]
  rfl

variable {s a}

theorem display_inMode (unattended : s.isInteractive a = false) :
    s.display (a.inMode m) = .plain m := by
  rw [Situation.display, isInteractive_inMode, unattended, Arguments.mode_inMode]
  rfl

theorem printedPieces_inMode (unattended : s.isInteractive a = false) :
    printedPieces s (a.inMode m) = pieces (.plain m) (s.logFilter a) (shown s a) := by
  rw [printedPieces, display_inMode m unattended, logFilter_inMode, shown_inMode]

theorem printedPieces_verbose (unattended : s.isInteractive a = false) :
    printedPieces s (a.inMode .verbose) = printedPieces s (a.inMode .normal) := by
  rw [printedPieces_inMode _ unattended, printedPieces_inMode _ unattended, pieces_verbose]

theorem printedPieces_quiet (unattended : s.isInteractive a = false) :
    printedPieces s (a.inMode .quiet) =
      (printedPieces s (a.inMode .normal)).filter fun p => !p.1.isDetail := by
  rw [printedPieces_inMode _ unattended, printedPieces_inMode _ unattended, pieces_quiet]

end InMode

/-- The pieces that the display has words for, in the order in which they are printed. -/
def worded (s : Situation) (a : Arguments) : List (Event × Printed) :=
  (printedPieces s a).filter (·.1.isWorded)

/-- A run without an operator does the same in every mode, whatever it has shown before: it collects the
same store, comes to the same result or error and leaves the same files. Its mode only selects what is
printed of what it shows. Verbose and normal runs print the same, a quiet one leaves out just the notes
and the progress by phases and steps, and none of these goes to the error output. -/
theorem mode_selects_printed (s : Situation) (a : Arguments) (unattended : s.isInteractive a = false) :
    (∀ m, (a.inMode m).mode = m ∧ s.display (a.inMode m) = .plain m) ∧
    (∀ m (b : Blueprint) (before : Transcript),
      (Run.session (s.settings (a.inMode m)) b).outcome ((s.world (a.inMode m)).prepend before) =
        let ended := (Run.session (s.settings a) b).outcome (s.world a)
        (ended.1, ended.2.prepend before)) ∧
    (∀ m, (runBlueprint s (a.inMode m)).outcome (s.world (a.inMode m)) =
        (runBlueprint s a).outcome (s.world a) ∧
      (runArguments s (a.inMode m)).code = (runArguments s a).code ∧
      (runArguments s (a.inMode m)).files = (runArguments s a).files ∧
      (runArguments s (a.inMode m)).printed = (printedPieces s (a.inMode m)).map Prod.snd) ∧
    (∀ m, Printed.errBytes ((worded s (a.inMode m)).map Prod.snd) =
      Printed.errBytes ((worded s (a.inMode .normal)).map Prod.snd)) ∧
    worded s (a.inMode .verbose) = worded s (a.inMode .normal) ∧
    worded s (a.inMode .quiet) = (worded s (a.inMode .normal)).filter fun p => !p.1.isDetail := by
  have verbose : worded s (a.inMode .verbose) = worded s (a.inMode .normal) := by
    rw [worded, printedPieces_verbose unattended, worded]
  have quiet : worded s (a.inMode .quiet) =
      (worded s (a.inMode .normal)).filter fun p => !p.1.isDetail := by
    rw [worded, printedPieces_quiet unattended, worded, List.filter_filter, List.filter_filter]
    exact congrArg (List.filter · _) (funext fun p => Bool.and_comm _ _)
  refine ⟨fun m => ⟨a.mode_inMode m, display_inMode m unattended⟩, ?_, ?_, ?_, verbose, quiet⟩
  · intro m b before
    rw [settings_inMode, world_inMode]
    exact (Run.framed_session _ b).framed before _
  · intro m
    have same : (runBlueprint s (a.inMode m)).run (s.world (a.inMode m)) =
        (runBlueprint s a).run (s.world a) := by rw [runBlueprint_inMode, world_inMode]
    refine ⟨same, ?_, ?_, printed_runArguments s _⟩
    · rw [runArguments, same]
      rfl
    · rw [runArguments, same]
      rfl
  · intro m
    cases m with
    | verbose => rw [verbose]
    | normal => rfl
    | quiet =>
      rw [quiet]
      refine errBytes_filter fun p member detail => ?_
      have inside := (List.mem_filter.mp member).1
      rw [printedPieces_inMode _ unattended] at inside
      exact out_of_isDetail _ _ inside (by simpa using detail)

/-- A quiet run through a blueprint whose only phase has no steps leaves out the phase. -/
theorem mode_selects_printed_of_phase :
    ∃ (s : Situation) (a : Arguments), s.isInteractive a = false ∧
      (runArguments s (a.inMode .quiet)).code = (runArguments s a).code ∧ (runArguments s a).code = 0 ∧
      worded s (a.inMode .quiet) = (worded s (a.inMode .normal)).filter (fun p => !p.1.isDetail) ∧
      (worded s (a.inMode .normal)).length = 3 ∧ (worded s (a.inMode .quiet)).length = 2 := by
  let document :=
    "\x7b\"meta\": \x7b\x7d, \"workflow\": \x7b\"phases\": [\x7b\"title\": \"Setup\", \"steps\": []\x7d]\x7d\x7d"
  let s : Situation :=
    { arguments := ["kiln.json", "--non-interactive"], environment := ∅, directory := []
      files := FileTree.empty.put ["kiln.json"] (.file document.toUTF8 false), input := []
      onTerminal := true, clock := fun n => n, shell := fun _ here => ⟨some 0, "", [], here⟩ }
  let a : Arguments := ⟨"kiln.json", none, [.nonInteractive]⟩
  obtain ⟨-, -, same, -, -, quiet⟩ := mode_selects_printed s a rfl
  exact ⟨s, a, rfl, (same .quiet).2.1, by decide +kernel, quiet, by decide +kernel, by decide +kernel⟩

end CommandLine

end Scaffold
