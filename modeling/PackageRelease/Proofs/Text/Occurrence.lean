/-
PackageRelease/Proofs/Text/Occurrence.lean

Where a needle first occurs in a text.

    firstOccurrence? needle text = some n  ↔  the needle stands behind n characters,
                                              and behind fewer it does not
    firstOccurrence? needle text = none    ↔  the needle is not in the text

If the first occurrence is all of the text, the text is the needle; and so it
is the other way round, since nothing shorter can be in front of an occurrence
that has no room to spare (`isCoveredBy_iff`).
-/
import Mathlib.Data.List.Infix
import PackageRelease.Secret

namespace PackageRelease

variable {needle text : List Char} {n : Nat}

theorem firstOccurrence?_start (begins : needle <+: text) :
    firstOccurrence? needle text = some 0 := by
  cases text with
  | nil =>
    rw [List.prefix_nil.1 begins]
    rfl
  | cons c rest => rw [firstOccurrence?, if_pos (List.isPrefixOf_iff_prefix.2 begins)]

theorem firstOccurrence?_cons {c : Char} (apart : ¬ needle <+: c :: text) :
    firstOccurrence? needle (c :: text) = (firstOccurrence? needle text).map (· + 1) := by
  rw [firstOccurrence?, if_neg (mt List.isPrefixOf_iff_prefix.1 apart)]

/-- A needle with which the text begins occurs there first. -/
theorem firstOccurrence?_start_eq_some_iff (begins : needle <+: text) :
    firstOccurrence? needle text = some n ↔
      needle <+: text.drop n ∧ ∀ m < n, ¬ needle <+: text.drop m := by
  rw [firstOccurrence?_start begins, Option.some.injEq]
  constructor
  · rintro rfl
    exact ⟨begins, fun m lt => absurd lt (Nat.not_lt_zero m)⟩
  · rintro ⟨-, none⟩
    by_contra later
    exact none 0 (Nat.pos_of_ne_zero (Ne.symm later)) begins

theorem firstOccurrence?_eq_some_iff :
    firstOccurrence? needle text = some n ↔
      needle <+: text.drop n ∧ ∀ m < n, ¬ needle <+: text.drop m := by
  induction text generalizing n with
  | nil =>
    cases needle with
    | nil => exact firstOccurrence?_start_eq_some_iff List.nil_prefix
    | cons c needle => simp [firstOccurrence?]
  | cons c text ih =>
    by_cases begins : needle <+: c :: text
    · exact firstOccurrence?_start_eq_some_iff begins
    · rw [firstOccurrence?_cons begins]
      cases n with
      | zero => simp [begins]
      | succ n =>
        simp only [Option.map_eq_some_iff, Nat.add_right_cancel_iff, exists_eq_right, ih,
          List.drop_succ_cons]
        refine and_congr_right fun _ => ⟨fun none m lt => ?_, fun none m lt => ?_⟩
        · cases m with
          | zero => exact begins
          | succ m => exact none m (by omega)
        · exact none (m + 1) (by omega)

theorem firstOccurrence?_eq_none_iff :
    firstOccurrence? needle text = none ↔ ¬ needle <:+: text := by
  induction text with
  | nil => cases needle <;> simp [firstOccurrence?]
  | cons c text ih =>
    rw [List.infix_cons_iff, not_or, ← ih]
    by_cases begins : needle <+: c :: text
    · simp [firstOccurrence?_start begins, begins]
    · simp [firstOccurrence?_cons begins, begins]

/-- **The first occurrence of a needle is all of a text exactly if the text is the needle.** -/
theorem isCoveredBy_iff : isCoveredBy text needle = true ↔ text = needle := by
  unfold isCoveredBy
  constructor
  · intro covered
    rcases first : firstOccurrence? needle text with - | start
    · simp [first] at covered
    · obtain ⟨rfl, all⟩ : start = 0 ∧ start + needle.length = text.length := by
        simpa [first] using covered
      have begins : needle <+: text := (firstOccurrence?_eq_some_iff.1 first).1
      exact (begins.eq_of_length (by omega)).symm
  · rintro rfl
    simp [firstOccurrence?_start (List.prefix_refl text)]

end PackageRelease
