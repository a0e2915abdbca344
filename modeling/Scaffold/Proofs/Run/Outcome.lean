import Scaffold.Run.Workflow

/-! What computations of a run come to, and what holds of them wherever they run: they add events of
some kind to the transcript without looking at it, and they fail with errors of some kind. -/
namespace Scaffold

namespace World

def append (w : World) (es : Transcript) : World := { w with transcript := w.transcript ++ es }

def prepend (es : Transcript) (w : World) : World := { w with transcript := es ++ w.transcript }

def ticked (w : World) : World := { w with clock := fun n => w.clock (n + 1) }

def silent (w : World) : World := { w with transcript := [] }

@[simp] theorem append_nil (w : World) : w.append [] = w := by simp [append]

@[simp] theorem append_append (w : World) (es fs : Transcript) :
    (w.append es).append fs = w.append (es ++ fs) := by simp [append]

@[simp] theorem silent_append (w : World) (es : Transcript) : (w.append es).silent = w.silent := rfl

@[simp] theorem prepend_append (w : World) (es fs : Transcript) :
    (w.prepend es).append fs = (w.append fs).prepend es := by simp [append, prepend]

@[simp] theorem transcript_append (w : World) (es : Transcript) :
    (w.append es).transcript = w.transcript ++ es := rfl

@[simp] theorem transcript_ticked (w : World) : w.ticked.transcript = w.transcript := rfl

@[simp] theorem ticked_append (w : World) (es : Transcript) :
    (w.append es).ticked = w.ticked.append es := rfl

theorem prepend_silent (w : World) : w.silent.prepend w.transcript = w := by
  simp [silent, prepend]

end World

namespace Run

variable {α β : Type}

def outcome (x : Run α) (w : World) : Except Error α × World := x.run w

variable (w : World)

@[simp] theorem outcome_pure (a : α) : (pure a : Run α).outcome w = (.ok a, w) := rfl

@[simp] theorem outcome_throw (e : Error) : (throw e : Run α).outcome w = (.error e, w) := rfl

theorem outcome_bind (x : Run α) (f : α → Run β) : (x >>= f).outcome w =
    match x.outcome w with
    | (.ok a, w') => (f a).outcome w'
    | (.error e, w') => (.error e, w') := by
  show (ExceptT.bindCont f (x.outcome w).1).run (x.outcome w).2 = _
  rcases x.outcome w with ⟨e | a, w'⟩ <;> rfl

theorem bind_eq_ok {x : Run α} {f : α → Run β} {w w' : World} {b : β}
    (done : (x >>= f).outcome w = (.ok b, w')) :
    ∃ a w₁, x.outcome w = (.ok a, w₁) ∧ (f a).outcome w₁ = (.ok b, w') := by
  rw [outcome_bind] at done
  rcases first : x.outcome w with ⟨e | a, w₁⟩
  · rw [first] at done
    cases done
  · rw [first] at done
    exact ⟨a, w₁, rfl, done⟩

theorem bind_eq_error {x : Run α} {f : α → Run β} {w w' : World} {e : Error}
    (failed : (x >>= f).outcome w = (.error e, w')) :
    x.outcome w = (.error e, w') ∨
      ∃ a w₁, x.outcome w = (.ok a, w₁) ∧ (f a).outcome w₁ = (.error e, w') := by
  rw [outcome_bind] at failed
  rcases first : x.outcome w with ⟨e' | a, w₁⟩
  · rw [first] at failed
    cases failed
    exact .inl rfl
  · rw [first] at failed
    exact .inr ⟨a, w₁, rfl, failed⟩

theorem outcome_tryCatch (x : Run α) (f : Error → Run α) : (tryCatch x f).outcome w =
    match x.outcome w with
    | (.ok a, w') => (.ok a, w')
    | (.error e, w') => (f e).outcome w' := by
  rw [outcome, ExceptT.run_tryCatch]
  rcases result : x.outcome w with ⟨r, w'⟩
  show (x.run >>= _) w = _
  simp only [Bind.bind, StateT.bind]
  rw [show x.run w = (r, w') from result]
  cases r <;> rfl

@[simp] theorem outcome_liftM (r : Except Error α) : (liftM r : Run α).outcome w = (r, w) := rfl

@[simp] theorem outcome_emit (e : Event) : (emit e).outcome w = (.ok (), w.append [e]) := rfl

@[simp] theorem outcome_say (severity : Severity) (s : String) :
    (say severity s).outcome w = (.ok (), w.append [.said severity s]) := rfl

@[simp] theorem outcome_now :
    now.outcome w = (.ok (w.clock 0), w.ticked) := rfl

theorem outcome_onFiles (failure : SystemFault → Error) (action : Location → Files.Action α) :
    (onFiles failure action).outcome w =
      let result := (action w.directory).run w.surroundings.files
      (result.1.mapError failure,
        { w with surroundings := { w.surroundings with files := result.2 } }) := rfl

theorem outcome_ask (q : Question) : (ask q).outcome w =
    ((w.respondent.ask q).1,
      { w with
        respondent := (w.respondent.ask q).2
        transcript := w.transcript ++ if w.respondent.isScript then [.asked q.key] else [] }) := by
  have opened : (ask q).outcome w = (do
      if w.respondent.isScript then emit (.asked q.key)
      modify fun v => { v with respondent := (w.respondent.ask q).2 }
      liftM (w.respondent.ask q).1 : Run Answer).outcome w := rfl
  cases script : w.respondent.isScript with
  | false =>
    rw [opened, script]
    simp only [Bool.false_eq_true, if_false, List.append_nil]
    rfl
  | true =>
    rw [opened, script, if_pos rfl]
    rfl

theorem outcome_forM_emit {γ : Type} (f : γ → Event) (xs : List γ) :
    (xs.forM fun x => emit (f x)).outcome w = (.ok (), w.append (xs.map f)) := by
  induction xs generalizing w with
  | nil => simp
  | cons x xs ih =>
    show (emit (f x) >>= fun _ => xs.forM fun x => emit (f x)).outcome w = _
    rw [outcome_bind, outcome_emit]
    exact (ih (w.append [f x])).trans (by simp)

@[simp] theorem outcome_warned (x : Warned α) :
    (warned x).outcome w = (.ok x.value, w.append (x.warnings.map .logged)) := by
  rw [warned, outcome_bind, outcome_forM_emit]
  rfl

/-! Lists. -/

theorem outcome_mapM_append (f : α → Run β) {xs ys : List α} {w w' : World} {bs : List β}
    (done : (xs.mapM f).outcome w = (.ok bs, w')) :
    ((xs ++ ys).mapM f).outcome w =
      (((ys.mapM f).outcome w').1.map (bs ++ ·), ((ys.mapM f).outcome w').2) := by
  rw [List.mapM_append, outcome_bind, done]
  exact (outcome_bind w' _ _).trans (by rcases (ys.mapM f).outcome w' with ⟨e | a, w''⟩ <;> rfl)

theorem mapM_cons_eq_ok {f : α → Run β} {x : α} {xs : List α} {w w' : World} {bs : List β}
    (done : ((x :: xs).mapM f).outcome w = (.ok bs, w')) :
    ∃ b rest w₁, bs = b :: rest ∧ (f x).outcome w = (.ok b, w₁) ∧
      (xs.mapM f).outcome w₁ = (.ok rest, w') := by
  rw [List.mapM_cons] at done
  obtain ⟨b, w₁, first, done⟩ := bind_eq_ok done
  obtain ⟨rest, w₂, later, done⟩ := bind_eq_ok done
  cases done
  exact ⟨b, rest, w₁, rfl, first, later⟩

theorem mapM_cons_of_ok {f : α → Run β} {x : α} {w w₁ : World} {b : β} (xs : List α)
    (first : (f x).outcome w = (.ok b, w₁)) :
    ((x :: xs).mapM f).outcome w =
      (((xs.mapM f).outcome w₁).1.map (b :: ·), ((xs.mapM f).outcome w₁).2) := by
  rw [List.mapM_cons, outcome_bind, first]
  exact (outcome_bind w₁ _ _).trans (by rcases (xs.mapM f).outcome w₁ with ⟨e | bs, w₂⟩ <;> rfl)

/-- A list that one computation goes through, another one that succeeds where it does goes through. -/
theorem outcome_mapM_mono {f g : α → Run β}
    (follows : ∀ x w b w', (f x).outcome w = (.ok b, w') → (g x).outcome w = (.ok b, w'))
    {xs : List α} {w w' : World} {bs : List β} (done : (xs.mapM f).outcome w = (.ok bs, w')) :
    (xs.mapM g).outcome w = (.ok bs, w') := by
  induction xs generalizing w bs with
  | nil => exact done
  | cons x xs ih =>
    obtain ⟨b, rest, w₁, rfl, first, later⟩ := mapM_cons_eq_ok done
    rw [mapM_cons_of_ok xs (follows x w b w₁ first), ih later]
    rfl

/-- A failure in a list is that of one element, after all those before it. -/
theorem mapM_eq_error {f : α → Run β} {xs : List α} {w w' : World} {e : Error}
    (failed : (xs.mapM f).outcome w = (.error e, w')) :
    ∃ before x after bs w₁, xs = before ++ x :: after ∧
      (before.mapM f).outcome w = (.ok bs, w₁) ∧ (f x).outcome w₁ = (.error e, w') := by
  induction xs generalizing w with
  | nil => cases failed
  | cons x xs ih =>
    rw [List.mapM_cons] at failed
    rcases bind_eq_error failed with first | ⟨b, w₁, first, later⟩
    · exact ⟨[], x, xs, [], w, rfl, rfl, first⟩
    · rcases bind_eq_error later with rest | ⟨_, _, _, last⟩
      · obtain ⟨before, y, after, bs, w₂, rfl, done, last⟩ := ih rest
        refine ⟨x :: before, y, after, b :: bs, w₂, rfl, ?_, last⟩
        rw [mapM_cons_of_ok before first, done]
        rfl
      · cases last

theorem outcome_mapM_append_error {f : α → Run β} {before after : List α} {x : α} {w w₁ w' : World}
    {bs : List β} {e : Error} (done : (before.mapM f).outcome w = (.ok bs, w₁))
    (failed : (f x).outcome w₁ = (.error e, w')) :
    ((before ++ x :: after).mapM f).outcome w = (.error e, w') := by
  rw [outcome_mapM_append f done, List.mapM_cons, outcome_bind, failed]
  rfl

/-! Laws that hold wherever a computation runs. -/

/-- A computation adds events of a kind only and does not look at those before them, and it fails with
errors of a kind only. -/
structure Within (events : Event → Prop) (errors : Error → Prop) (x : Run α) : Prop where
  framed : ∀ es w, x.outcome (w.prepend es) = ((x.outcome w).1, (x.outcome w).2.prepend es)
  adds : ∀ w, ∃ es, (x.outcome w).2.transcript = w.transcript ++ es ∧ ∀ e ∈ es, events e
  fails : ∀ w e, (x.outcome w).1 = .error e → errors e

namespace Within

variable {events : Event → Prop} {errors : Error → Prop} {x : Run α}

theorem mono {events' : Event → Prop} {errors' : Error → Prop} (within : Within events errors x)
    (more : ∀ e, events e → events' e) (others : ∀ e, errors e → errors' e) :
    Within events' errors' x where
  framed := within.framed
  adds w := by
    obtain ⟨es, added, inside⟩ := within.adds w
    exact ⟨es, added, fun e member => more e (inside e member)⟩
  fails w e failed := others e (within.fails w e failed)

/-- What is done to a world is done to it without its transcript, which comes in front again. -/
theorem outcome_eq (within : Within events errors x) :
    x.outcome w = ((x.outcome w.silent).1, (x.outcome w.silent).2.prepend w.transcript) := by
  rw [← within.framed, World.prepend_silent]

theorem silent_outcome (within : Within events errors x) {w v : World} (same : w.silent = v.silent) :
    (x.outcome w).1 = (x.outcome v).1 ∧ (x.outcome w).2.silent = (x.outcome v).2.silent := by
  rw [within.outcome_eq w, within.outcome_eq v, same]
  exact ⟨rfl, rfl⟩

theorem pure (a : α) : Within events errors (pure a : Run α) where
  framed _ _ := rfl
  adds w := ⟨[], by simp⟩
  fails _ _ failed := by cases failed

theorem throw {e : Error} (error : errors e) : Within events errors (throw e : Run α) where
  framed _ _ := rfl
  adds w := ⟨[], by simp⟩
  fails _ _ failed := by cases failed; exact error

theorem bind {f : α → Run β} (first : Within events errors x)
    (next : ∀ a, Within events errors (f a)) : Within events errors (x >>= f) where
  framed es w := by
    simp only [outcome_bind, first.framed es w]
    rcases x.outcome w with ⟨e | a, w'⟩
    · rfl
    · exact (next a).framed es w'
  adds w := by
    obtain ⟨es, added, inside⟩ := first.adds w
    rw [outcome_bind]
    rcases result : x.outcome w with ⟨e | a, w'⟩
    · exact ⟨es, by simpa [result] using added, inside⟩
    · obtain ⟨fs, more, inside'⟩ := (next a).adds w'
      simp only [result] at added
      refine ⟨es ++ fs, by simp [more, added], ?_⟩
      intro e member
      rcases List.mem_append.mp member with member | member
      · exact inside e member
      · exact inside' e member
  fails w e failed := by
    rw [outcome_bind] at failed
    rcases result : x.outcome w with ⟨e' | a, w'⟩
    · exact first.fails w e (by simpa [result] using failed)
    · exact (next a).fails w' e (by simpa [result] using failed)

theorem tryCatch {f : Error → Run α} (first : Within events errors x)
    (next : ∀ e, errors e → Within events errors (f e)) :
    Within events errors (tryCatch x f) where
  framed es w := by
    have kind := first.fails w
    simp only [outcome_tryCatch, first.framed es w]
    rcases result : x.outcome w with ⟨e | a, w'⟩
    · exact (next e (kind e (by rw [result]))).framed es w'
    · rfl
  adds w := by
    have kind := first.fails w
    obtain ⟨es, added, inside⟩ := first.adds w
    rw [outcome_tryCatch]
    rcases result : x.outcome w with ⟨e | a, w'⟩
    · obtain ⟨fs, more, inside'⟩ := (next e (kind e (by rw [result]))).adds w'
      simp only [result] at added
      refine ⟨es ++ fs, by simp [more, added], ?_⟩
      intro e member
      rcases List.mem_append.mp member with member | member
      · exact inside e member
      · exact inside' e member
    · exact ⟨es, by simpa [result] using added, inside⟩
  fails w e failed := by
    have kind := first.fails w
    rw [outcome_tryCatch] at failed
    rcases result : x.outcome w with ⟨e' | a, w'⟩
    · exact (next e' (kind e' (by rw [result]))).fails w' e (by simpa [result] using failed)
    · simp [result] at failed

theorem ite {c : Prop} [Decidable c] {x y : Run α} (first : Within events errors x)
    (second : Within events errors y) : Within events errors (if c then x else y) := by
  split
  · exact first
  · exact second

theorem liftM {r : Except Error α} (kind : ∀ e, r = .error e → errors e) :
    Within events errors (liftM r : Run α) where
  framed _ _ := rfl
  adds w := ⟨[], by simp⟩
  fails _ e failed := kind e failed

theorem emit {e : Event} (kind : events e) : Within events errors (emit e) where
  framed es w := by simp
  adds w := ⟨[e], by simp [kind]⟩
  fails _ _ failed := by cases failed

theorem say {severity : Severity} {s : String} (kind : events (.said severity s)) :
    Within events errors (say severity s) := .emit kind

theorem now : Within events errors now where
  framed _ _ := rfl
  adds w := ⟨[], by simp⟩
  fails _ _ failed := by cases failed

theorem files : Within events errors files where
  framed _ _ := rfl
  adds w := ⟨[], (List.append_nil _).symm, by simp⟩
  fails _ _ failed := by cases failed

theorem directory : Within events errors directory where
  framed _ _ := rfl
  adds w := ⟨[], (List.append_nil _).symm, by simp⟩
  fails _ _ failed := by cases failed

theorem onFiles {failure : SystemFault → Error} {action : Location → Files.Action α}
    (kind : ∀ f, errors (failure f)) : Within events errors (onFiles failure action) where
  framed _ _ := rfl
  adds w := ⟨[], by simp [outcome_onFiles]⟩
  fails w e failed := by
    rw [outcome_onFiles] at failed
    rcases result : ((action w.directory).run w.surroundings.files) with ⟨f | a, t⟩
    · rw [result] at failed
      cases failed
      exact kind f
    · rw [result] at failed
      cases failed

theorem ask {q : Question} (kind : events (.asked q.key))
    (refusals : ∀ (r : Respondent) e, (r.ask q).1 = .error e → errors e) :
    Within events errors (ask q) where
  framed es w := by simp [outcome_ask, World.prepend]
  adds w := by
    refine ⟨_, by rw [outcome_ask], ?_⟩
    intro e member
    split at member
    · cases List.mem_singleton.mp member; exact kind
    · simp at member
  fails w e failed := refusals w.respondent e (by rwa [outcome_ask] at failed)

theorem forM {γ : Type} {f : γ → Run PUnit} {xs : List γ}
    (each : ∀ a, Within events errors (f a)) : Within events errors (xs.forM f) := by
  induction xs with
  | nil => exact .pure _
  | cons a xs ih =>
    exact .bind (each a) fun _ => ih

end Within

end Run

end Scaffold
