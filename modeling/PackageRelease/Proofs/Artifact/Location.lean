/-
PackageRelease/Proofs/Artifact/Location.lean

What the search for the artifact comes to, case by case.

A candidate is a regular file whose name does not begin with a point.  With
the candidates of a directory in the order in which they are listed:

    the name of one is no text      its lenient reading, of the first such one
    none                            no artifact
    one                             the artifact
    two or more                     all their names, in order

Whatever else the directory holds makes no difference (`locate_exact`).
-/
import Mathlib.Data.List.Forall2
import PackageRelease.Proofs.Artifact
import PackageRelease.Proofs.Text.Utf8

namespace PackageRelease

/-! ### Candidates -/

namespace Files

namespace Entry

variable {entry : Entry} {name : String}

/-- The name of the entry is the UTF-8 form of a text. -/
def IsNamed (entry : Entry) (name : String) : Prop := entry.name = name.toUTF8.data.toList

/-- The name of the entry is no text. -/
def IsNameless (entry : Entry) : Prop := ∀ name, ¬ entry.IsNamed name

/-- The entry is a regular file, and its name does not begin with a point. -/
structure IsCandidate (entry : Entry) : Prop where
  regular : entry.kind = .regular
  visible : ¬ ".".toUTF8.data.toList <+: entry.name

theorem decode?_name_eq_some_iff : Utf8.decode? entry.name = some name ↔ entry.IsNamed name := by
  rw [IsNamed, ← Utf8.encode_eq_toUTF8, Utf8.decode?_eq_some_iff]

theorem decode?_name_eq_none_iff : Utf8.decode? entry.name = none ↔ entry.IsNameless := by
  simp only [IsNameless, ← decode?_name_eq_some_iff, Option.eq_none_iff_forall_ne_some, ne_eq]

theorem named_or_nameless (entry : Entry) : (∃ name, entry.IsNamed name) ∨ entry.IsNameless := by
  rcases read : Utf8.decode? entry.name with - | name
  · exact .inr (decode?_name_eq_none_iff.1 read)
  · exact .inl ⟨name, decode?_name_eq_some_iff.1 read⟩

/-- A point can be looked for in the bytes of a name or in its lenient reading. -/
theorem isCandidate_iff_decodeLossy :
    entry.IsCandidate ↔
      entry.kind = .regular ∧ (Utf8.decodeLossy entry.name).toList.head? ≠ some '.' := by
  have point : ".".toUTF8.data.toList = Utf8.encodeChar '.' := by decide
  rw [ne_eq, Utf8.head?_decodeLossy_eq_some_iff (by decide), ← point]
  exact ⟨fun ⟨regular, visible⟩ => ⟨regular, visible⟩, fun ⟨regular, visible⟩ => ⟨regular, visible⟩⟩

theorem counts_iff : Artifact.counts entry ↔ entry.IsCandidate := by
  have point : ".".toUTF8.data.toList = [46] := by decide
  have hidden : [46] <+: entry.name ↔ entry.name.head? = some 46 := by
    rcases entry.name with - | ⟨b, rest⟩
    · simp
    · simp [eq_comm]
  rw [Artifact.counts, Bool.and_eq_true, beq_iff_eq, bne_iff_ne, ne_eq, ← hidden, ← point]
  exact ⟨fun ⟨regular, visible⟩ => ⟨regular, visible⟩, fun ⟨regular, visible⟩ => ⟨regular, visible⟩⟩

instance : DecidablePred IsCandidate := fun entry =>
  decidable_of_iff (Artifact.counts entry) counts_iff

end Entry

/-- The candidates among the entries, in the order in which they are listed. -/
def candidates (entries : List Entry) : List Entry := entries.filter fun e => e.IsCandidate

theorem filter_counts (entries : List Entry) :
    entries.filter Artifact.counts = candidates entries := by
  refine List.filter_congr fun e _ => ?_
  rw [Bool.eq_iff_iff, Entry.counts_iff, decide_eq_true_eq]

/-- Either all candidates have a text for a name, or there is a first one that has none. -/
theorem named_or_first_nameless (entries : List Entry) :
    (∃ names, List.Forall₂ Entry.IsNamed entries names) ∨
      ∃ before entry after, entries = before ++ entry :: after ∧
        (∀ e ∈ before, ∃ name, e.IsNamed name) ∧ entry.IsNameless := by
  induction entries with
  | nil => exact .inl ⟨[], .nil⟩
  | cons e entries ih =>
    rcases e.named_or_nameless with ⟨name, named⟩ | nameless
    · -- the first one that has none is the first one of the rest
      rcases ih with ⟨names, all⟩ | ⟨before, entry, after, rfl, good, bad⟩
      · exact .inl ⟨name :: names, .cons named all⟩
      · exact .inr ⟨e :: before, entry, after, rfl, by simpa using ⟨⟨name, named⟩, good⟩, bad⟩
    · exact .inr ⟨[], e, entries, rfl, by simp, nameless⟩

end Files

/-! ### The search -/

namespace Artifact

open Files (candidates)
open Files.Entry (IsNamed IsNameless)

variable {dist : String} {entries : List Files.Entry}

theorem namesOf_eq : namesOf entries = (candidates entries).mapM nameOf := by
  rw [namesOf, Files.filter_counts]

/-- Candidates that all have a text for a name have these names. -/
theorem namesOf_of_named {names : List String}
    (named : List.Forall₂ IsNamed (candidates entries) names) : namesOf entries = .ok names := by
  rw [namesOf_eq, mapM_eq_ok_iff]
  exact named.imp fun e name h => nameOf_eq_ok_iff.2 (Files.Entry.decode?_name_eq_some_iff.2 h)

/-- The first candidate whose name is no text is told. -/
theorem namesOf_of_nameless {before after : List Files.Entry} {entry : Files.Entry}
    (listed : candidates entries = before ++ entry :: after)
    (good : ∀ e ∈ before, ∃ name, e.IsNamed name) (nameless : entry.IsNameless) :
    namesOf entries = .error (.malformedFilename (Utf8.decodeLossy entry.name)) := by
  rw [namesOf_eq]
  refine mapM_eq_error_iff.2 ⟨before, entry, after, listed, fun e mem => ?_, ?_⟩
  · obtain ⟨name, named⟩ := good e mem
    exact ⟨name, nameOf_eq_ok_iff.2 (Files.Entry.decode?_name_eq_some_iff.2 named)⟩
  · rw [nameOf, Files.Entry.decode?_name_eq_none_iff.2 nameless]

/-- Candidates that all have a text for a name are chosen from by their names. -/
theorem locate_of_named {names : List String}
    (named : List.Forall₂ IsNamed (candidates entries) names) :
    locate dist (.ok entries) = choose dist names := by
  rw [locate, namesOf_of_named named]
  rfl

/-- The first candidate whose name is no text ends the search. -/
theorem locate_of_nameless {before after : List Files.Entry} {entry : Files.Entry}
    (listed : candidates entries = before ++ entry :: after)
    (good : ∀ e ∈ before, ∃ name, e.IsNamed name) (nameless : entry.IsNameless) :
    locate dist (.ok entries)
      = .error (.malformedFilename (Utf8.decodeLossy entry.name)) := by
  rw [locate, namesOf_of_nameless listed good nameless]
  rfl

/-- Where the candidates all have a text for a name, a listing that breaks off is told. -/
theorem locate_brokenOff_of_named {names : List String} {unseen : Option Files.Name}
    {fault : Files.Fault} (named : List.Forall₂ IsNamed (candidates entries) names) :
    locate dist (.brokenOff entries unseen fault)
      = .error (.artifactDirectory dist (brokenOff dist unseen fault)) := by
  rw [locate, namesOf_of_named named]
  rfl

theorem pairwise_mergeSort (names : List String) :
    (names.mergeSort (· ≤ ·)).Pairwise (· ≤ ·) := by
  have transitive (a b c : String) (below : decide (a ≤ b) = true)
      (below' : decide (b ≤ c) = true) : decide (a ≤ c) = true :=
    decide_eq_true (String.le_trans (of_decide_eq_true below) (of_decide_eq_true below'))
  have total (a b : String) : (decide (a ≤ b) || decide (b ≤ a)) = true := by
    simpa using String.le_total a b
  exact (List.pairwise_mergeSort transitive total names).imp of_decide_eq_true

/-- Of two names or more all are told. -/
theorem choose_of_several {names : List String} (several : 2 ≤ names.length) :
    choose dist names
      = .error (.ambiguousArtifacts dist names.length (names.mergeSort (· ≤ ·))) := by
  match names with
  | [] | [_] => simp at several
  | _ :: _ :: _ => rfl

/-- **The search for the artifact, case by case.**  A directory that cannot be listed is told with
the words for it.  In one that can, the candidates are told from the rest by their kind and by the
first character of their names, and nothing but the candidates settles what the search comes to.  A
listing that breaks off is told too, unless a candidate in front of that ends the search. -/
theorem locate_exact (dist : String) :
    let path (name : String) :=
      if dist = "" ∨ dist.toList.getLast? = some '/' then dist ++ name else dist ++ "/" ++ name
    (∀ fault : Files.Fault, locate dist (.error fault)
      = .error (.artifactDirectory dist
          ("IO error for operation on " ++ dist ++ ": " ++ fault.text))) ∧
    ∀ entries : List Files.Entry,
      (∀ entry, entry ∈ candidates entries ↔ entry ∈ entries ∧ entry.kind = .regular ∧
        (Utf8.decodeLossy entry.name).toList.head? ≠ some '.') ∧
      (∀ names, List.Forall₂ IsNamed (candidates entries) names →
        (names = [] → locate dist (.ok entries) = .error (.noArtifact dist)) ∧
        (∀ name, names = [name] → locate dist (.ok entries) = .ok ⟨path name, name⟩) ∧
        (2 ≤ names.length → ∃ sorted, sorted.Perm names ∧ sorted.Pairwise (· ≤ ·) ∧
          locate dist (.ok entries)
            = .error (.ambiguousArtifacts dist (candidates entries).length sorted)) ∧
        ∀ fault : Files.Fault,
          locate dist (.brokenOff entries none fault)
            = .error (.artifactDirectory dist fault.text) ∧
          ∀ unseen, locate dist (.brokenOff entries (some unseen) fault)
            = .error (.artifactDirectory dist ("IO error for operation on "
                ++ path (Utf8.decodeLossy unseen) ++ ": " ++ fault.text))) ∧
      (∀ before entry after, candidates entries = before ++ entry :: after →
        (∀ e ∈ before, ∃ name, e.IsNamed name) → entry.IsNameless →
        locate dist (.ok entries)
          = .error (.malformedFilename (Utf8.decodeLossy entry.name)) ∧
        ∀ unseen fault, locate dist (.brokenOff entries unseen fault)
          = .error (.malformedFilename (Utf8.decodeLossy entry.name))) ∧
      ((∃ names, List.Forall₂ IsNamed (candidates entries) names) ∨
        ∃ before entry after, candidates entries = before ++ entry :: after ∧
          (∀ e ∈ before, ∃ name, e.IsNamed name) ∧ entry.IsNameless) ∧
      ∀ entries', candidates entries' = candidates entries →
        locate dist (.ok entries') = locate dist (.ok entries) ∧
        ∀ unseen fault, locate dist (.brokenOff entries' unseen fault)
          = locate dist (.brokenOff entries unseen fault) := by
  intro path
  have path_eq (name : String) : Files.join dist name = path name := by
    simp only [Files.join, path, String.isEmpty_iff]
  refine ⟨fun fault => rfl, fun entries => ⟨fun entry => ?_,
    fun names named => ⟨?_, ?_, fun several => ?_, fun fault => ?_⟩,
    fun before entry after listed good nameless =>
      ⟨locate_of_nameless listed good nameless, fun unseen fault => ?_⟩,
    Files.named_or_first_nameless _, fun entries' same => ?_⟩⟩
  · rw [candidates, List.mem_filter, decide_eq_true_eq, Files.Entry.isCandidate_iff_decodeLossy]
  · rintro rfl
    exact locate_of_named named
  · rintro name rfl
    rw [locate_of_named named, ← path_eq]
    rfl
  · refine ⟨names.mergeSort (· ≤ ·), List.mergeSort_perm _ _, pairwise_mergeSort names, ?_⟩
    rw [locate_of_named named, choose_of_several several, named.length_eq]
  · refine ⟨locate_brokenOff_of_named named, fun unseen => ?_⟩
    rw [← path_eq]
    exact locate_brokenOff_of_named named
  · rw [locate, namesOf_of_nameless listed good nameless, error_bind]
  · -- a search looks at nothing but the names
    have names_eq : namesOf entries' = namesOf entries := by rw [namesOf_eq, namesOf_eq, same]
    refine ⟨?_, fun unseen fault => ?_⟩
    · rw [locate, locate, names_eq]
    · rw [locate, locate, names_eq]

end Artifact

end PackageRelease
