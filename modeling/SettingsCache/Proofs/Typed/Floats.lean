import SettingsCache.Proofs.Numeral.Shortest
import SettingsCache.Proofs.Typed.Stored

/-!
# Floating point numbers that were stored

A floating point number is stored as the text of a decimal that is rounded to it, so it comes back
as it was, bit for bit.
-/

namespace SettingsCache.Client.Session

open Numeral Binary32

/-- Floating point numbers survive storage. The text that is written for a finite number is that of
a rational number which is rounded to it, to nearest and ties to even. Whatever the cache and the
service had been through, and whatever has happened since that left the namespace's entries as they
were written, reads that are answered give every number back bit for bit, zeros with their sign and
infinities included, and no number as no number. -/
theorem floats_survive (x : Binary32) :
    (x.magnitude < infinity →
      ∃ q, DenotesSigned (SettingNumber.write x).toList x.isNegative q ∧ Rounds q x.magnitude) ∧
    ∀ {start : Overlap Service} {later : Session} {name : String} {user : UserId},
      later.Since start (putNumber start.cache.ns name x user) →
      (∃ value, later.client.Answers later.service start.cache.ns name user value) →
      (x.isNaN = false → later.ReadsBack start.cache.ns name user x) ∧
      (x.isNaN = true → ∃ y : Binary32, y.isNaN = true ∧
        later.ReadsBack start.cache.ns name user y) := by
  refine ⟨denotes_write, fun since answered ↦ ?_⟩
  have hanswers := since.answers answered
  refine ⟨fun h ↦ ?_, fun h ↦ ?_⟩
  · exact readsBack_of_read hanswers (mapError_eq_ok_iff.mpr (read_write h))
  · obtain ⟨y, hread, hy⟩ := read_write_of_isNaN h
    exact ⟨y, hy, readsBack_of_read hanswers (mapError_eq_ok_iff.mpr hread)⟩

/-- The number next to zero from below comes back. -/
theorem floats_survive_nextToZero :
    let x : Binary32 := ⟨0x80000001⟩
    let before := Overlap.seeded
    let client := unchecked .primary {}
    let written := putNumber .global "offset" x .primary
    let later := (after client before.provider written).play
      [.act ((texts .global "" .primary).map fun _ ↦ .nothing)]
    (∃ q, DenotesSigned (SettingNumber.write x).toList true q ∧ Rounds q 1) ∧
      later.ReadsBack .global "offset" .primary x := by
  intro x before client written later
  have run : Overlap.Run before.Fair before [] before := .nil
  have since : later.Since before written := by
    refine .intro Overlap.opening_seeded run rfl ?_ ?_ ?_ ?_
    · decide +kernel
    · simp [Event.Fair]
    · decide +kernel
    · decide +kernel
  have answered : later.client.Answers later.service .global "offset" .primary
      (some (SettingNumber.write x)) :=
    ⟨⟨some (SettingNumber.write x), .cache, some 3⟩, by decide +kernel, rfl⟩
  obtain ⟨hwritten, hsurvives⟩ := floats_survive x
  have hsign : x.isNegative = true := by decide
  have hmagnitude : x.magnitude = 1 := by decide
  rw [hsign, hmagnitude] at hwritten
  exact ⟨hwritten (by decide), (hsurvives since ⟨_, answered⟩).1 (by decide)⟩

end SettingsCache.Client.Session
