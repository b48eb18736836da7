/-
PackageRelease/Proofs/Artifact/ListingOrder.lean

Directories whose entries are listed in another order.

The search for the artifact comes to the same, with one exception: of several
candidates whose names are no texts it tells the one that is listed first.  If
these names are read leniently as one text there is no difference either
(`search_eq_or_tells_nameless`).
-/
import Mathlib.Data.List.Perm.Basic
import PackageRelease.Proofs.Artifact.Location
import PackageRelease.Run

namespace PackageRelease

namespace Artifact

open Files (candidates)
open Files.Entry (IsNamed IsNameless)

variable {dist : String} {names names' : List String} {entries entries' : List Files.Entry}

/-! ### The choice -/

theorem mergeSort_eq_of_perm (same : names.Perm names') :
    names.mergeSort (· ≤ ·) = names'.mergeSort (· ≤ ·) := by
  have rearranged : (names.mergeSort (· ≤ ·)).Perm (names'.mergeSort (· ≤ ·)) :=
    (List.mergeSort_perm _ _).trans (same.trans (List.mergeSort_perm _ _).symm)
  exact rearranged.eq_of_pairwise (fun _ _ _ _ => String.le_antisymm) (pairwise_mergeSort names)
    (pairwise_mergeSort names')

/-- Names are chosen from in any order. -/
theorem choose_perm (same : names.Perm names') : choose dist names = choose dist names' := by
  match names with
  | [] => rw [List.nil_perm.1 same]
  | [name] => rw [List.singleton_perm.1 same]
  | first :: second :: rest =>
    have several : 2 ≤ (first :: second :: rest).length := by simp
    rw [choose_of_several several, choose_of_several (same.length_eq ▸ several), same.length_eq,
      mergeSort_eq_of_perm same]

/-! ### The search -/

theorem candidates_perm (same : entries.Perm entries') :
    (candidates entries).Perm (candidates entries') := same.filter _

theorem named_of_perm (same : entries.Perm entries')
    (named : List.Forall₂ IsNamed (candidates entries) names) :
    ∃ names', List.Forall₂ IsNamed (candidates entries') names' ∧ names'.Perm names :=
  List.perm_comp_forall₂ (candidates_perm same).symm named

/-- In another order the same is found, or another name that is no text is told. -/
theorem locate_eq_or_tells_nameless (same : entries.Perm entries') :
    locate dist (.ok entries) = locate dist (.ok entries') ∨
      ∃ e ∈ candidates entries, ∃ e' ∈ candidates entries, e.IsNameless ∧ e'.IsNameless ∧
        Utf8.decodeLossy e.name ≠ Utf8.decodeLossy e'.name ∧
        locate dist (.ok entries) = .error (.malformedFilename (Utf8.decodeLossy e.name)) ∧
        locate dist (.ok entries') = .error (.malformedFilename (Utf8.decodeLossy e'.name)) := by
  by_cases all : ∃ names, List.Forall₂ IsNamed (candidates entries) names
  · obtain ⟨names, named⟩ := all
    obtain ⟨names', named', rearranged⟩ := named_of_perm same named
    rw [locate_of_named named, locate_of_named named', choose_perm rearranged]
    exact .inl rfl
  -- the candidates are the same in both orders, so in both there is a first one without a text
  have all' : ¬ ∃ names, List.Forall₂ IsNamed (candidates entries') names := by
    rintro ⟨names', named'⟩
    obtain ⟨names, named, -⟩ := named_of_perm same.symm named'
    exact all ⟨names, named⟩
  obtain ⟨before, e, after, listed, good, bad⟩ := (Files.named_or_first_nameless _).resolve_left all
  obtain ⟨before', e', after', listed', good', bad'⟩ :=
    (Files.named_or_first_nameless _).resolve_left all'
  have found : locate dist (.ok entries) = _ := locate_of_nameless listed good bad
  have found' : locate dist (.ok entries') = _ := locate_of_nameless listed' good' bad'
  by_cases alike : Utf8.decodeLossy e.name = Utf8.decodeLossy e'.name
  · rw [found, found', alike]
    exact .inl rfl
  · have mem : e ∈ candidates entries := listed ▸ List.mem_append_right _ List.mem_cons_self
    have mem' : e' ∈ candidates entries' := listed' ▸ List.mem_append_right _ List.mem_cons_self
    exact .inr ⟨e, mem, e', (candidates_perm same).mem_iff.2 mem', bad, bad', alike, found, found'⟩

/-- **The order in which a directory is listed makes no difference to the search** for the artifact
and for its coordinates, unless there are two candidates whose names are no texts and are read
leniently as two texts; then each order tells one such name. -/
theorem search_eq_or_tells_nameless (dist : String) {entries entries' : List Files.Entry}
    (same : entries.Perm entries') :
    (locate dist (.ok entries) = locate dist (.ok entries') ∧
      Run.extractCoordinates dist (.ok entries) = Run.extractCoordinates dist (.ok entries')) ∨
    ∃ e ∈ candidates entries, ∃ e' ∈ candidates entries, e.IsNameless ∧ e'.IsNameless ∧
      Utf8.decodeLossy e.name ≠ Utf8.decodeLossy e'.name ∧
      locate dist (.ok entries) = .error (.malformedFilename (Utf8.decodeLossy e.name)) ∧
      locate dist (.ok entries') = .error (.malformedFilename (Utf8.decodeLossy e'.name)) := by
  refine (locate_eq_or_tells_nameless same).imp_left fun found => ⟨found, ?_⟩
  rw [Run.extractCoordinates, Run.extractCoordinates, found]

/-- Two artifacts, and between them what is no candidate, under names that are no texts. -/
theorem search_eq_or_tells_nameless_hidden :
    let entries : List Files.Entry :=
      [⟨.regular, Utf8.encode "b.whl"⟩, ⟨.regular, [46, 255]⟩, ⟨.link, [255]⟩,
        ⟨.regular, Utf8.encode "a.whl"⟩]
    let found : Except Failure Artifact := .error (.ambiguousArtifacts "dist" 2 ["a.whl", "b.whl"])
    entries.Perm entries.reverse ∧ locate "dist" (.ok entries) = found ∧
      locate "dist" (.ok entries.reverse) = found := by
  intro entries found
  have same : entries.Perm entries.reverse := (List.reverse_perm entries).symm
  have listed : locate "dist" (.ok entries) = choose "dist" ["b.whl", "a.whl"] := rfl
  have sorted : ["a.whl", "b.whl"].mergeSort (· ≤ ·) = ["a.whl", "b.whl"] :=
    List.mergeSort_of_pairwise (by decide)
  have here : locate "dist" (.ok entries) = found := by
    rw [listed, choose_perm (.swap _ _ _), choose_of_several (by decide), sorted]
    rfl
  rcases search_eq_or_tells_nameless "dist" same with ⟨alike, -⟩ | ⟨e, -, e', -, -, -, -, told, -⟩
  · exact ⟨same, here, alike ▸ here⟩
  · exact absurd (here.symm.trans told) (by simp [found])

/-- **The order in which a directory is listed can make a difference.** -/
theorem listing_order_told :
    let entries : List Files.Entry := [⟨.regular, [97, 255]⟩, ⟨.regular, [98, 255]⟩]
    entries.Perm entries.reverse ∧
      locate "dist" (.ok entries) = .error (.malformedFilename "a\ufffd") ∧
      locate "dist" (.ok entries.reverse) = .error (.malformedFilename "b\ufffd") ∧
      locate "dist" (.ok entries) ≠ locate "dist" (.ok entries.reverse) ∧
      (Run.extractCoordinates "dist" (.ok entries)).outcome
        ≠ (Run.extractCoordinates "dist" (.ok entries.reverse)).outcome := by
  decide +kernel

end Artifact

end PackageRelease
