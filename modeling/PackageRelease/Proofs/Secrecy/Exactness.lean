/-
PackageRelease/Proofs/Secrecy/Exactness.lean

What masking changes in a text, and that it changes nothing else.

A text falls into pieces around the leftmost occurrences of a secret that do
not overlap, in one way only.  Masking puts the masked form between these pieces
in place of the secret:

    text    =  p₀ ++ secret ++ p₁ ++ secret ++ ... ++ pₙ
    masked  =  p₀ ++ form   ++ p₁ ++ form   ++ ... ++ pₙ

No character of a secret has a meaning of its own in that.  Several secrets are
masked one after the other, each in what the ones before it have left, and an
empty secret is not masked at all (`mask_replaces_exactly`).
-/
import PackageRelease.Proofs.Secrecy.Masking
import PackageRelease.Proofs.Text.Pieces

namespace PackageRelease

namespace Masker

variable {secret : Secret} {secrets : List Secret} {text : String}

/-- Masking one secret puts its masked form between the pieces around its occurrences. -/
theorem exists_splits_mask_register (nonempty : secret.exposed ≠ "") (text : String) :
    ∃ pieces, Splits secret.exposed.toList text.toList pieces ∧
      ((register {} secret).mask text).toList = pieces.join secret.masked.toList := by
  have exposed_ne : secret.exposed.toList ≠ [] := by simpa using nonempty
  obtain ⟨pieces, splits, joined⟩ :=
    exists_splits_replaceAll exposed_ne secret.masked.toList text.toList
  refine ⟨pieces, splits, ?_⟩
  rw [toList_mask_register nonempty, ← joined, maskOne, Secret.masked, String.toList_ofList]

/-- Masking several secrets is masking one after the other. -/
theorem mask_eq_foldl (nonempty : ∀ secret ∈ secrets, secret.exposed ≠ "") (text : String) :
    String.ofList (secrets.foldl maskOne text.toList)
      = secrets.foldl (fun masked secret => (register {} secret).mask masked) text := by
  induction secrets generalizing text with
  | nil => exact String.ofList_toList
  | cons secret secrets ih =>
    rw [List.forall_mem_cons] at nonempty
    rw [List.foldl_cons, List.foldl_cons, ← ih nonempty.2, toList_mask_register nonempty.1]

/-- **Masking replaces a secret by its masked form, and changes nothing else.**  A text falls into
the pieces around the leftmost occurrences of the secret, in one way only, and the masked text is
these pieces with the masked form between them; so a text that does not hold the secret is left as
it is.  Of several secrets those that are not empty are masked one after the other, in their
order. -/
theorem mask_replaces_exactly :
    (∀ secret : Secret, secret.exposed ≠ "" → ∀ text : String,
      ∃ pieces, Splits secret.exposed.toList text.toList pieces ∧
        ((register {} secret).mask text).toList = pieces.join secret.masked.toList ∧
        ∀ other, Splits secret.exposed.toList text.toList other → other = pieces) ∧
    (∀ (secret : Secret) (text : String), ¬ secret.IsIn text →
      (register {} secret).mask text = text) ∧
    ∀ (secrets : List Secret) (text : String),
      (secrets.foldl register {}).mask text
        = (secrets.filter (·.exposed ≠ "")).foldl
            (fun masked secret => (register {} secret).mask masked) text := by
  refine ⟨fun secret nonempty text => ?_, fun secret text absent => ?_, fun secrets text => ?_⟩
  · obtain ⟨pieces, splits, masked⟩ := exists_splits_mask_register nonempty text
    exact ⟨pieces, splits, masked, fun other splits' => splits.unique splits'⟩
  · exact mask_register_of_not_infix absent
  · have kept : (ofList secrets).secrets = secrets.filter (·.exposed ≠ "") := by
      rw [secrets_ofList]
      refine List.filter_congr fun secret _ => ?_
      rw [Bool.eq_iff_iff]
      simp
    have nonempty : ∀ secret ∈ secrets.filter (·.exposed ≠ ""), secret.exposed ≠ "" :=
      fun secret mem => by simpa using (List.mem_filter.1 mem).2
    show (ofList secrets).mask text = _
    rw [mask, kept, mask_eq_foldl nonempty]

/-- A secret that overlaps itself, with a dot that stands for nothing but a dot. -/
theorem mask_replaces_exactly_overlapping :
    let secret : Secret := ⟨"é.é"⟩
    let pieces : Pieces := ⟨[[], ['.', 'é']], ['é', '-', 'é']⟩
    Splits secret.exposed.toList "é.é.éé.éé-é".toList pieces ∧
      (register {} secret).mask "é.é.éé.éé-é" = "****.é****é-é" ∧
      (register {} secret).mask "é-é" = "é-é" := by
  intro secret pieces
  have splits : Splits secret.exposed.toList "é.é.éé.éé-é".toList pieces :=
    ⟨by decide, by decide, by decide⟩
  obtain ⟨exact, untouched, -⟩ := mask_replaces_exactly
  obtain ⟨found, -, masked, unique⟩ := exact secret (by decide) "é.é.éé.éé-é"
  rw [← unique pieces splits] at masked
  refine ⟨splits, String.toList_inj.1 (masked.trans (by decide)), untouched secret "é-é" ?_⟩
  decide

end Masker

end PackageRelease
