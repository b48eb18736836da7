/-
PackageRelease/Proofs/Artifact.lean

What the search for the artifact finds.

The search comes to a good end exactly if the directory can be listed and one
entry counts, under a name that is a text:

    locate dist (.ok entries) = .ok ⟨dist / name, name⟩
      ↔ entries.filter counts = [entry] and entry.name decodes to name

All that it can fail with belongs to the phase of the coordinates
(`phase_of_locate_eq_error`).
-/
import PackageRelease.Artifact
import PackageRelease.Proofs.Outcome

namespace PackageRelease

namespace Artifact

variable {dist : String} {listing : Files.Listing}

/-! ### Names -/

theorem nameOf_eq_ok_iff {entry : Files.Entry} {name : String} :
    nameOf entry = .ok name ↔ Utf8.decode? entry.name = some name := by
  rcases h : Utf8.decode? entry.name with - | text <;> simp [nameOf, h]

theorem phase_of_nameOf_eq_error {entry : Files.Entry} {failure : Failure}
    (h : nameOf entry = .error failure) : failure.phase = .coordinates := by
  unfold nameOf at h
  split at h
  · cases h
  · cases h
    rfl

/-! ### The choice among the names -/

theorem choose_eq_ok_iff {names : List String} {artifact : Artifact} :
    choose dist names = .ok artifact ↔
      ∃ name, names = [name] ∧ artifact = ⟨Files.join dist name, name⟩ := by
  match names with
  | [] => simp [choose]
  | [name] => simp [choose, eq_comm]
  | first :: second :: rest => simp [choose]

theorem phase_of_choose_eq_error {names : List String} {failure : Failure}
    (h : choose dist names = .error failure) : failure.phase = .coordinates := by
  unfold choose at h
  split at h <;> cases h <;> rfl

/-! ### The search -/

theorem namesOf_eq_ok_iff {entries : List Files.Entry} {names : List String} :
    namesOf entries = .ok names ↔
      List.Forall₂ (fun e name => Utf8.decode? e.name = some name) (entries.filter counts)
        names := by
  simp only [namesOf, mapM_eq_ok_iff, nameOf_eq_ok_iff]

theorem phase_of_namesOf_eq_error {entries : List Files.Entry} {failure : Failure}
    (h : namesOf entries = .error failure) : failure.phase = .coordinates := by
  obtain ⟨-, entry, -, -, -, bad⟩ := mapM_eq_error_iff.1 h
  exact phase_of_nameOf_eq_error bad

/-- The artifact is found exactly if one entry counts, and under a name that is a text. -/
theorem locate_eq_ok_iff {artifact : Artifact} :
    locate dist listing = .ok artifact ↔
      ∃ entries entry name, listing = .ok entries ∧ entries.filter counts = [entry] ∧
        Utf8.decode? entry.name = some name ∧ artifact = ⟨Files.join dist name, name⟩ := by
  cases listing with
  | ok entries =>
    simp only [locate, bind_eq_ok_iff, namesOf_eq_ok_iff, choose_eq_ok_iff]
    constructor
    · rintro ⟨names, named, name, rfl, rfl⟩
      obtain ⟨entry, rest, decoded, none, counted⟩ := List.forall₂_cons_right_iff.1 named
      rw [List.forall₂_nil_right_iff.1 none] at counted
      exact ⟨entries, entry, name, rfl, counted, decoded, rfl⟩
    · rintro ⟨entries, entry, name, ⟨⟩, counted, decoded, rfl⟩
      refine ⟨[name], ?_, name, rfl, rfl⟩
      rw [counted]
      exact .cons decoded .nil
  | error fault => simp [locate]
  | brokenOff entries unseen fault => simp [locate, bind_eq_ok_iff]

theorem phase_of_locate_eq_error {failure : Failure}
    (h : locate dist listing = .error failure) : failure.phase = .coordinates := by
  cases listing with
  | ok entries =>
    obtain failed | ⟨names, -, failed⟩ := bind_eq_error_iff.1 h
    · exact phase_of_namesOf_eq_error failed
    · exact phase_of_choose_eq_error failed
  | error fault =>
    cases h
    rfl
  | brokenOff entries unseen fault =>
    obtain failed | ⟨names, -, failed⟩ := bind_eq_error_iff.1 h
    · exact phase_of_namesOf_eq_error failed
    · cases failed
      rfl

end Artifact

end PackageRelease
