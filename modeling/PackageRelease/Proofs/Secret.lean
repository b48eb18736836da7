/-
PackageRelease/Proofs/Secret.lean

What is masked, and what is left as it is.

A text in which a secret does not occur is left as it is
(`mask_register_of_not_infix`), and of the arguments of a command only those
are masked that are a secret (`maskArgument_eq`).  What is put in the
place of a secret tells how it begins and ends, if it is long, and nothing else
about it: secrets that are shown alike have one masked form (`masked_eq`).
-/
import PackageRelease.Proofs.Text.Occurrence

namespace PackageRelease

/-! ### Masked forms -/

namespace Secret

/-- Both secrets are too short to be shown in part, or both are long and have the same first three
and the same last three characters. -/
inductive ShownAlike : Secret → Secret → Prop
  | hidden {secret secret' : Secret} (short : secret.exposed.toList.length < 10)
      (short' : secret'.exposed.toList.length < 10) : ShownAlike secret secret'
  | partly {secret secret' : Secret} (long : 10 ≤ secret.exposed.toList.length)
      (long' : 10 ≤ secret'.exposed.toList.length)
      (first : secret.exposed.toList.take 3 = secret'.exposed.toList.take 3)
      (last : secret.exposed.toList.drop (secret.exposed.toList.length - 3)
        = secret'.exposed.toList.drop (secret'.exposed.toList.length - 3)) :
      ShownAlike secret secret'

variable {secret secret' : Secret}

theorem ShownAlike.masked_eq (alike : secret.ShownAlike secret') :
    secret.masked = secret'.masked := by
  unfold masked maskedChars partialLength
  cases alike with
  | hidden short short' => rw [if_pos short, if_pos short']
  | partly long long' first last =>
    rw [if_neg (Nat.not_lt.2 long), if_neg (Nat.not_lt.2 long'), first, last]

end Secret

/-! ### Texts -/

/-- A text in which the needle does not occur is left as it is. -/
theorem replaceAll_of_not_infix {needle text : List Char} (replacement : List Char)
    (absent : ¬ needle <:+: text) : replaceAll needle replacement text = text := by
  unfold replaceAll
  induction text with
  | nil => rfl
  | cons c rest ih =>
    have apart : ¬ needle.isPrefixOf (c :: rest) := by
      intro starts
      exact absent (List.isPrefixOf_iff_prefix.1 starts).isInfix
    have absent' : ¬ needle <:+: rest := fun occurs => absent (List.infix_cons occurs)
    rw [replaceFrom, if_neg apart, ih absent']

namespace Masker

variable {secret : Secret}

theorem mask_register_of_not_infix {text : String}
    (absent : ¬ secret.exposed.toList <:+: text.toList) :
    (register {} secret).mask text = text := by
  unfold register
  split
  · exact String.ofList_toList
  · show String.ofList (maskOne text.toList secret) = text
    rw [maskOne, replaceAll_of_not_infix _ absent, String.ofList_toList]

/-! ### Arguments -/

/-- An argument is masked exactly if it is one of the secrets; all that are it are masked alike. -/
theorem maskArgument_eq (masker : Masker) (argument : String) :
    masker.maskArgument argument
      = if ∃ secret ∈ masker.secrets, secret.exposed = argument then Secret.masked ⟨argument⟩
        else argument := by
  have covered (secret : Secret) :
      isCoveredBy argument.toList secret.exposed.toList = true ↔ secret.exposed = argument := by
    rw [isCoveredBy_iff, String.toList_inj, eq_comm]
  rw [maskArgument]
  split
  · next secret found =>
    have hit := List.find?_some found
    have same : secret.exposed = argument := (covered secret).1 hit
    rw [if_pos ⟨secret, List.mem_of_find?_eq_some found, same⟩, ← same]
  · next found =>
    have absent : ¬ ∃ secret ∈ masker.secrets, secret.exposed = argument := by
      rintro ⟨secret, mem, same⟩
      exact List.find?_eq_none.1 found secret mem ((covered secret).2 same)
    rw [if_neg absent]

theorem maskArgument_register (nonempty : secret.exposed ≠ "") (argument : String) :
    (register {} secret).maskArgument argument
      = if argument = secret.exposed then secret.masked else argument := by
  have registered : register {} secret = ⟨[secret]⟩ := by
    simp [register, nonempty]
  rw [registered, maskArgument_eq]
  by_cases same : argument = secret.exposed
  · simp [same]
  · simp [same, Ne.symm same]

end Masker

end PackageRelease
