import Scaffold.Proofs.Files.Changes
import Scaffold.Proofs.Files.Repetition

/-! Writing to a file what is in it. Its text goes where it comes from, through the same links, and the
directories on its way are there. -/
namespace Scaffold

theorem FileTree.putBytes_self {t : FileTree} {p : Location} {bytes : ByteArray} {isProgram : Bool}
    (inside : p ≠ []) (found : t.find? p = some (.file bytes isProgram)) : t.putBytes p bytes = t := by
  have whole : t.putBytes p bytes = t.put p (.file bytes isProgram) := by rw [putBytes, found]
  have same : (t.put p (.file bytes isProgram)).entries = t.entries := by
    ext1 q
    rw [entries_put]
    split
    · next here => rw [here, ← find?_of_ne_nil t inside, found]
    · rfl
  rw [whole]
  cases t
  exact congrArg FileTree.mk same

namespace Files

open FileTree

variable {t : FileTree} {here : Location} {path text : String}

/-! Reading. -/

theorem toUTF8_of_fromUTF8? {bytes : ByteArray} (decoded : String.fromUTF8? bytes = some text) :
    text.toUTF8 = bytes := by
  unfold String.fromUTF8? at decoded
  split at decoded
  · cases decoded
    rfl
  · cases decoded

theorem exists_file_of_readText (known : readText t here path = .ok text) :
    ∃ q isProgram, locate t here path = .ok q ∧ t.find? q = some (.file text.toUTF8 isProgram) := by
  rw [readText, bind_eq_ok] at known
  obtain ⟨bytes, got, known⟩ := known
  rw [read, bind_eq_ok] at got
  obtain ⟨q, located, got⟩ := got
  split at got
  · next bytes' isProgram found =>
    cases got
    split at known
    · next text' decoded =>
      cases known
      exact ⟨q, isProgram, located, by rw [found, toUTF8_of_fromUTF8? decoded]⟩
    · cases known
  · cases got
  · cases got

/-! Writing. -/

/-- Writing to a file its own text leaves all files as they are. -/
theorem run_write_back {r : Except SystemFault Unit} {u : FileTree} (known : readText t here path = .ok text)
    (wrote : (write here path text.toUTF8).run t = (r, u)) : u = t := by
  obtain ⟨q, isProgram, located, found⟩ := exists_file_of_readText known
  obtain ⟨-, n, -, follows⟩ := locate_eq_ok_iff_follows.mp located
  cases writes : writable t here path with
  | error f =>
    rw [write, run_get_bind, run_liftM_bind, writes] at wrote
    cases wrote
    rfl
  | ok p =>
    rw [run_write writes] at wrote
    cases wrote
    obtain ⟨_, -, writes⟩ := writable_eq_ok_iff_writes.mp writes
    obtain rfl := writes.eq_of_follows follows
    exact putBytes_self writes.place_ne_nil found

theorem run_write_back_of_proper (proper : t.Proper) (known : readText t here path = .ok text) :
    (write here path text.toUTF8).run t = (.ok (), t) := by
  obtain ⟨q, isProgram, found', found⟩ := exists_file_of_readText known
  obtain ⟨located, rfl⟩ := (locate_eq_ok_iff proper.unlinked).mp found'
  have wrote : (write here path text.toUTF8).run t = _ := run_write_of_located proper located found
  rw [wrote, run_write_back known wrote]

end Files

end Scaffold
