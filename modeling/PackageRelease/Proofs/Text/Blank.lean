/-
PackageRelease/Proofs/Text/Blank.lean

What trimming leaves of a text.

A text is unpadded if it neither starts nor ends with white space.  Trimming
takes white space away at the two ends until the text is unpadded, and that
says all about it:

    trimmed cs = t  ↔  cs = before ++ t ++ after,
                       before and after are blank, and t is unpadded
-/
import Mathlib.Data.List.DropRight
import PackageRelease.Text.Blank

namespace PackageRelease

variable {cs t : List Char}

/-- The text neither starts nor ends with white space. -/
@[mk_iff]
structure IsUnpadded (t : List Char) : Prop where
  starts : ∀ c ∈ t.head?, isBlank c = false
  ends : ∀ c ∈ t.getLast?, isBlank c = false

instance (t : List Char) : Decidable (IsUnpadded t) :=
  decidable_of_iff (t.head?.all (!isBlank ·) ∧ t.getLast?.all (!isBlank ·)) <| by
    simp [isUnpadded_iff, Option.all_eq_true]

/-- The text is unpadded, and around it stands nothing but white space. -/
def IsCoreOf (t cs : List Char) : Prop :=
  ∃ before after, cs = before ++ t ++ after ∧ (∀ c ∈ before, isBlank c) ∧
    (∀ c ∈ after, isBlank c) ∧ IsUnpadded t

theorem isUnpadded_trimmed (cs : List Char) : IsUnpadded (trimmed cs) where
  starts _ first := head?_trimmed first
  ends _ last := getLast?_trimmed last

theorem isCoreOf_trimmed (cs : List Char) : IsCoreOf (trimmed cs) cs := by
  refine ⟨cs.takeWhile isBlank, (cs.dropWhile isBlank).rtakeWhile isBlank, ?_,
    fun c mem => List.mem_takeWhile_imp mem, fun c mem => List.mem_rtakeWhile_imp mem,
    isUnpadded_trimmed cs⟩
  show cs = _ ++ (cs.dropWhile isBlank).rdropWhile isBlank ++ _
  rw [List.append_assoc, List.rdropWhile_append_rtakeWhile, List.takeWhile_append_dropWhile]

/-- An unpadded text is what is left of itself between white space. -/
theorem IsCoreOf.eq_trimmed (core : IsCoreOf t cs) : t = trimmed cs := by
  obtain ⟨before, after, rfl, blank, blank', starts, ends⟩ := core
  show t = (List.dropWhile isBlank _).rdropWhile isBlank
  rw [List.append_assoc, List.dropWhile_append_of_pos blank]
  rcases t with - | ⟨c, t⟩
  · -- the blanks behind an empty core are gone with those in front of it
    rw [List.nil_append, List.dropWhile_eq_nil_iff.2 blank', List.rdropWhile_nil]
  · have kept : List.dropWhile isBlank (c :: t ++ after) = c :: t ++ after :=
      List.dropWhile_cons_of_neg (by simp [starts c rfl])
    have dropped : (c :: t ++ after).rdropWhile isBlank = (c :: t).rdropWhile isBlank := by
      rw [List.rdropWhile, List.reverse_append,
        List.dropWhile_append_of_pos fun a mem => blank' a (List.mem_reverse.1 mem)]
      rfl
    rw [kept, dropped]
    refine (List.rdropWhile_eq_self_iff.2 fun nonempty => ?_).symm
    simp [ends _ (List.getLast?_eq_some_getLast nonempty)]

/-- **Trimming leaves the one unpadded text that has nothing but white space around it.** -/
theorem trimmed_eq_iff : trimmed cs = t ↔ IsCoreOf t cs :=
  ⟨fun h => h ▸ isCoreOf_trimmed cs, fun core => core.eq_trimmed.symm⟩

/-- Nothing is left exactly of white space. -/
theorem trimmed_eq_nil_iff : trimmed cs = [] ↔ ∀ c ∈ cs, isBlank c := by
  rw [trimmed_eq_iff]
  constructor
  · rintro ⟨before, after, rfl, blank, blank', -⟩ c mem
    rw [List.append_nil, List.mem_append] at mem
    exact mem.elim (blank c) (blank' c)
  · intro blank
    exact ⟨cs, [], by simp, blank, nofun, nofun, nofun⟩

end PackageRelease
