import Scaffold.Proofs.Files.Directories

/-! Writing, copying, removing and renaming. A failure leaves the tree as it is, and a success says
what was where and what is there now. -/
namespace Scaffold.Files

open FileTree

variable {t u : FileTree} {here : Location} {path source destination : String}
  {r : Except SystemFault Unit}

/-- The text of the file at a place, which is empty when nothing is there. -/
def HasText (t : FileTree) (p : Location) (text : String) : Prop :=
  (∃ bytes isProgram, t.find? p = some (.file bytes isProgram) ∧ String.fromUTF8? bytes = some text) ∨
    t.find? p = none ∧ text = ""

theorem hasText_of_readText (unlinked : t.Unlinked) {text : String}
    {front : List String} {name : String} (aimed : Aimed t here path front name)
    (plain : Path.endsInSlash path = false) (free : t.find? (place here path) ≠ some .directory)
    (known : readText t here path = .ok text ∨ readText t here path = .error .notFound ∧ text = "") :
    HasText t (place here path) text := by
  cases found : t.find? (place here path) with
  | none =>
    have unread : readText t here path ≠ .ok text := by
      intro readable
      obtain ⟨bytes, readable, -⟩ := bind_eq_ok.mp readable
      obtain ⟨p, searched, readable⟩ := bind_eq_ok.mp readable
      obtain ⟨-, rfl⟩ := (locate_eq_ok_iff unlinked).mp searched
      rw [found] at readable
      cases readable
    exact .inr ⟨found, (known.resolve_left unread).2⟩
  | some e =>
    have located := aimed.located plain (found ▸ Option.some_ne_none e)
    cases e with
    | file bytes isProgram =>
      have bytesRead : read t here path = .ok bytes := by
        rw [read, (locate_eq_ok_iff unlinked).mpr ⟨located, rfl⟩, ok_bind, found]
        rfl
      rw [readText, bytesRead, ok_bind] at known
      refine .inl ⟨bytes, isProgram, found, ?_⟩
      cases decoded : String.fromUTF8? bytes with
      | some s =>
        rw [decoded] at known
        rcases known with same | ⟨failed, -⟩
        · cases same
          rfl
        · cases failed
      | none =>
        rw [decoded] at known
        rcases known with failed | ⟨failed, -⟩ <;> cases failed
    | directory => exact absurd found free
    | link p => exact absurd found (unlinked _ _)

theorem write_cases {bytes : ByteArray} (unlinked : t.Unlinked)
    (done : (write here path bytes).run t = (r, u)) :
    (∃ f, r = .error f ∧ u = t) ∨
      r = .ok () ∧ u = t.putBytes (place here path) bytes ∧
        (∃ front name, Aimed t here path front name) ∧ Path.endsInSlash path = false ∧
        t.find? (place here path) ≠ some .directory := by
  rw [write, run_get_bind, run_liftM_bind] at done
  cases writes : writable t here path with
  | error f =>
    rw [writes] at done
    cases done
    exact .inl ⟨f, rfl, rfl⟩
  | ok p =>
    obtain ⟨aimed, plain, free, rfl⟩ := (writable_eq_ok_iff unlinked).mp writes
    rw [writes] at done
    cases done
    exact .inr ⟨rfl, rfl, aimed, plain, free⟩

/-- Where a file is found it may be written. -/
theorem run_write_of_located (proper : t.Proper) {bytes old : ByteArray} {isProgram : Bool}
    (located : Located t here path) (found : t.find? (place here path) = some (.file old isProgram)) :
    (write here path bytes).run t = (.ok (), t.putBytes (place here path) bytes) := by
  obtain ⟨aimed, plain⟩ := exists_aimed proper located found
  have free : t.find? (place here path) ≠ some .directory := by
    rw [found]
    nofun
  rw [write, run_get_bind, (writable_eq_ok_iff proper.unlinked).mpr ⟨aimed, plain, free, rfl⟩]
  rfl

theorem copy_cases (unlinked : t.Unlinked)
    (done : (copy here source destination).run t = (r, u)) :
    (∃ f, r = .error f ∧ u = t) ∨
      r = .ok () ∧ ∃ bytes isProgram, Located t here source ∧
        t.find? (place here source) = some (.file bytes isProgram) ∧
        u = t.put (place here destination) (.file bytes isProgram) ∧
        (∃ front name, Aimed t here destination front name) ∧
        t.find? (place here destination) ≠ some .directory := by
  rw [copy, run_get_bind, run_liftM_bind] at done
  cases search : locate t here source with
  | error f =>
    rw [search] at done
    cases done
    exact .inl ⟨f, rfl, rfl⟩
  | ok p =>
    obtain ⟨located, rfl⟩ := (locate_eq_ok_iff unlinked).mp search
    rw [search] at done
    dsimp only at done
    split at done
    · next bytes isProgram found =>
      rw [run_liftM_bind] at done
      cases writes : writable t here destination with
      | error f =>
        rw [writes] at done
        cases done
        exact .inl ⟨f, rfl, rfl⟩
      | ok q =>
        obtain ⟨aimed, -, free, rfl⟩ := (writable_eq_ok_iff unlinked).mp writes
        rw [writes] at done
        cases done
        exact .inr ⟨rfl, bytes, isProgram, located, found, rfl, aimed, free⟩
    all_goals
      cases done
      exact .inl ⟨_, rfl, rfl⟩

/-- What is not found by the removal of a file is nowhere on its path. -/
theorem removeFile_cases (unlinked : t.Unlinked)
    (done : (removeFile here path).run t = (r, u)) :
    (∃ f, r = .error f ∧ u = t ∧ (f = .notFound → has t here path = false)) ∨
      r = .ok () ∧ u = t.erase (place here path) ∧
        (∃ front name, Aimed t here path front name) ∧
        ∃ bytes isProgram, t.find? (place here path) = some (.file bytes isProgram) := by
  rw [removeFile, run_get_bind, run_liftM_bind] at done
  cases found : target t here path with
  | error f =>
    rw [found] at done
    cases done
    refine .inl ⟨f, rfl, rfl, ?_⟩
    rintro rfl
    -- The way itself fails, and the way of a path that has something at its end does not.
    rw [Bool.eq_false_iff]
    exact fun present => ((has_iff unlinked).mp present).1.target_ne_notFound unlinked found
  | ok x =>
    rw [found] at done
    dsimp only at done
    split at done
    · cases done
      exact .inl ⟨_, rfl, rfl, fun same => by cases same⟩
    · next p placed =>
      obtain ⟨-, aimed, rfl⟩ := aimed_of_target unlinked found placed
      split at done
      · next absent =>
        cases done
        refine .inl ⟨_, rfl, rfl, fun _ => ?_⟩
        rw [Bool.eq_false_iff]
        exact fun present => ((has_iff unlinked).mp present).2 absent
      · cases done
        exact .inl ⟨_, rfl, rfl, fun same => by cases same⟩
      · next e other present =>
        split at done
        · cases done
          exact .inl ⟨_, rfl, rfl, fun same => by cases same⟩
        · cases done
          cases e with
          | file bytes isProgram => exact .inr ⟨rfl, rfl, aimed, bytes, isProgram, present⟩
          | directory => exact absurd rfl other
          | link p => exact absurd present (unlinked _ _)

theorem rename_cases (unlinked : t.Unlinked)
    (done : (rename here source destination).run t = (r, u)) :
    (∃ f, r = .error f ∧ u = t) ∨
      r = .ok () ∧ (∃ front name, Aimed t here source front name) ∧
        (∃ front name, Aimed t here destination front name) ∧
        t.find? (place here source) ≠ none ∧
        (place here source = place here destination ∧ u = t ∨
          ¬ place here source <+: place here destination ∧
            ¬ place here destination <+: place here source ∧
            u = t.moveAll (place here source) (place here destination)) := by
  rw [rename, run_get_bind, run_liftM_bind] at done
  cases from? : target t here source with
  | error f =>
    rw [from?] at done
    cases done
    exact .inl ⟨_, rfl, rfl⟩
  | ok x =>
    rw [from?] at done
    dsimp only at done
    rw [run_liftM_bind] at done
    cases to? : target t here destination with
    | error f =>
      rw [to?] at done
      cases done
      exact .inl ⟨_, rfl, rfl⟩
    | ok y =>
      rw [to?] at done
      dsimp only at done
      split at done
      · next a b first second =>
        obtain ⟨-, aimed, rfl⟩ := aimed_of_target unlinked from? first
        obtain ⟨-, aimed', rfl⟩ := aimed_of_target unlinked to? second
        split at done
        · cases done
          exact .inl ⟨_, rfl, rfl⟩
        · next e present =>
          have present : t.find? (place here source) ≠ none := present ▸ Option.some_ne_none e
          split at done
          · cases done
            exact .inl ⟨_, rfl, rfl⟩
          · split at done
            · next same =>
              cases done
              exact .inr ⟨rfl, aimed, aimed', present, .inl ⟨same, rfl⟩⟩
            · split at done
              · cases done
                exact .inl ⟨_, rfl, rfl⟩
              · next below =>
                -- A move into itself has been refused; a move over a directory that the source is in comes next.
                split at done
                · cases done
                  exact .inl ⟨_, rfl, rfl⟩
                · next above =>
                  rw [List.isPrefixOf_iff_prefix] at below above
                  rw [run_liftM_bind] at done
                  split at done
                  · cases done
                    exact .inr ⟨rfl, aimed, aimed', present, .inr ⟨below, above, rfl⟩⟩
                  · cases done
                    exact .inl ⟨_, rfl, rfl⟩
      · cases done
        exact .inl ⟨_, rfl, rfl⟩

end Scaffold.Files
