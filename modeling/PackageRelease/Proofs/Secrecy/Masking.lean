/-
PackageRelease/Proofs/Secrecy/Masking.lean

Whether a secret can be read in a text after masking.

A masker goes through the text once for each secret, and the masked form that
it leaves keeps the first three and the last three characters of a long
secret.  No occurrence that it comes by is left, but a new one may arise, out
of a masked form and of what stands beside it:

    secret   abcdefgabc
    text     abcdefgabcdefgabc
    masked   abc...abcdefgabc

That takes a masked form which is not apart from the secret.  A secret that is
apart from its own masked form, and from those of the secrets after it, cannot
be read in any text after masking (`mask_conceals`).  A long secret that is
apart from its masked form but for the characters that are kept, as each one
without a dot is (`Secret.apart_toList_masked`), can be read only where it
overlaps itself in them (`overlapsIn_of_isIn_mask`), and if it begins as its
masked form ends there is a text in which it can be read
(`isIn_mask_of_started`).
-/
import PackageRelease.Proofs.Secret
import PackageRelease.Proofs.Text.Replacement

namespace PackageRelease

/-- The secret can be read in the text. -/
def Secret.IsIn (secret : Secret) (text : String) : Prop :=
  secret.exposed.toList <:+: text.toList

instance (secret : Secret) (text : String) : Decidable (secret.IsIn text) := by
  unfold Secret.IsIn
  infer_instance

/-! ### Masked forms of long secrets -/

namespace Secret

variable {secret : Secret} (long : 10 ≤ secret.exposed.toList.length)

include long

theorem length_first : (secret.exposed.toList.take 3).length = 3 := by
  rw [List.length_take]
  omega

theorem length_last : (secret.exposed.toList.rtake 3).length = 3 := by
  rw [List.rtake, List.length_drop]
  omega

theorem toList_masked :
    secret.masked.toList
      = secret.exposed.toList.take 3 ++ (['.', '.', '.'] ++ secret.exposed.toList.rtake 3) := by
  rw [masked, String.toList_ofList, maskedChars, partialLength, if_neg (Nat.not_lt.2 long),
    List.append_assoc]
  rfl

/-- A long secret begins as its masked form does. -/
theorem take_toList_masked : secret.masked.toList.take 3 <+: secret.exposed.toList := by
  rw [toList_masked long, List.take_append_of_le_length (length_first long).ge, List.take_take]
  exact List.take_prefix _ _

/-- A long secret ends as its masked form does. -/
theorem rtake_toList_masked : secret.masked.toList.rtake 3 <:+ secret.exposed.toList := by
  have same : secret.masked.toList.rtake 3 = secret.exposed.toList.rtake 3 := by
    rw [toList_masked long, ← List.append_assoc, List.rtake, List.length_append, length_last long,
      Nat.add_sub_cancel, List.drop_left]
  rw [same]
  exact List.drop_suffix _ _

/-- A long secret without a dot is apart from its masked form but for the characters that are
kept: whatever is longer has one of the dots. -/
theorem apart_toList_masked (dotless : '.' ∉ secret.exposed.toList) :
    Apart 3 secret.masked.toList secret.exposed.toList := by
  have form := toList_masked long
  refine ⟨fun within => ?_, fun around => ?_, ?_, ?_⟩
  · have := within.length_le
    rw [form] at this
    simp only [List.length_append, length_first long, length_last long, List.length_cons,
      List.length_nil] at this
    omega
  · apply dotless
    apply around.subset
    simp [form]
  · rintro ⟨part, ends, longer, begins⟩
    have tail : '.' :: secret.exposed.toList.rtake 3 <:+ secret.masked.toList :=
      ⟨secret.exposed.toList.take 3 ++ ['.', '.'], by simp [form]⟩
    have reaches : '.' :: secret.exposed.toList.rtake 3 <:+ part := by
      refine List.suffix_of_suffix_length_le tail ends ?_
      rw [List.length_cons, length_last long]
      exact longer
    exact dotless (begins.subset (reaches.subset List.mem_cons_self))
  · rintro ⟨part, begins, longer, ends⟩
    have head : secret.exposed.toList.take 3 ++ ['.'] <+: secret.masked.toList :=
      ⟨['.', '.'] ++ secret.exposed.toList.rtake 3, by simp [form]⟩
    have reaches : secret.exposed.toList.take 3 ++ ['.'] <+: part := by
      refine List.prefix_of_prefix_length_le head begins ?_
      rw [List.length_append, length_first long]
      exact longer
    exact dotless (ends.subset (reaches.subset (by simp)))

end Secret

namespace Masker

/-! ### Several secrets -/

/-- The masker for some secrets. -/
def ofList (secrets : List Secret) : Masker := secrets.foldl register {}

theorem secrets_foldl_register (masker : Masker) (secrets : List Secret) :
    (secrets.foldl register masker).secrets
      = masker.secrets ++ secrets.filter fun secret => !secret.exposed.isEmpty := by
  induction secrets generalizing masker with
  | nil => simp
  | cons secret secrets ih =>
    rw [List.foldl_cons, ih]
    by_cases empty : secret.exposed.isEmpty
    · simp [register, empty]
    · simp [register, empty]

/-- Of the secrets those are masked that are not empty. -/
theorem secrets_ofList (secrets : List Secret) :
    (ofList secrets).secrets = secrets.filter fun secret => !secret.exposed.isEmpty :=
  secrets_foldl_register {} secrets

theorem toList_mask_ofList (secrets : List Secret) (text : String) :
    ((ofList secrets).mask text).toList
      = (secrets.filter fun secret => !secret.exposed.isEmpty).foldl maskOne text.toList := by
  rw [mask, secrets_ofList, String.toList_ofList]

theorem toList_mask_register {secret : Secret} (nonempty : secret.exposed ≠ "") (text : String) :
    ((register {} secret).mask text).toList = maskOne text.toList secret := by
  have kept : [secret].filter (fun secret => !secret.exposed.isEmpty) = [secret] :=
    List.filter_cons_of_pos (by simpa using nonempty)
  show ((ofList [secret]).mask text).toList = _
  rw [toList_mask_ofList, kept]
  rfl

/-! ### One secret after the other -/

variable {secret other : Secret} {text : List Char}

theorem replaced_maskOne (nonempty : secret.exposed ≠ "") (text : List Char) :
    Replaced secret.exposed.toList secret.masked.toList text (maskOne text secret) := by
  rw [Secret.masked, String.toList_ofList]
  exact replaced_replaceAll _ (by simpa using nonempty) text

/-- Masking other secrets does not bring a secret about that is apart from their masked forms. -/
theorem infix_of_infix_foldl_maskOne {secrets : List Secret}
    (nonempty : ∀ other ∈ secrets, other.exposed ≠ "")
    (apart : ∀ other ∈ secrets, Apart 0 other.masked.toList secret.exposed.toList)
    (occurs : secret.exposed.toList <:+: secrets.foldl maskOne text) :
    secret.exposed.toList <:+: text := by
  induction secrets generalizing text with
  | nil => exact occurs
  | cons other secrets ih =>
    rw [List.forall_mem_cons] at nonempty apart
    exact (replaced_maskOne nonempty.1 text).infix_text apart.1 (ih nonempty.2 apart.2 occurs)

/-- **A secret cannot be read in a text after masking**, whatever the text and the secrets before
it, if it is apart from its own masked form and from those of the secrets after it. -/
theorem mask_conceals {before after : List Secret} {secret : Secret}
    (nonempty : secret.exposed ≠ "")
    (apart : ∀ other ∈ secret :: after, other.exposed ≠ "" →
      Apart 0 other.masked.toList secret.exposed.toList) (text : String) :
    ¬ secret.IsIn ((ofList (before ++ secret :: after)).mask text) := by
  obtain ⟨apart_self, apart_after⟩ := List.forall_mem_cons.1 apart
  have kept : (secret :: after).filter (fun secret => !secret.exposed.isEmpty)
      = secret :: after.filter fun secret => !secret.exposed.isEmpty :=
    List.filter_cons_of_pos (by simpa using nonempty)
  have of_mem {other : Secret}
      (mem : other ∈ after.filter fun secret => !secret.exposed.isEmpty) :
      other ∈ after ∧ other.exposed ≠ "" := by
    simpa using List.mem_filter.1 mem
  rw [Secret.IsIn, toList_mask_ofList, List.filter_append, kept, List.foldl_append,
    List.foldl_cons]
  intro occurs
  -- it is not there once it has been masked, and what is masked afterwards does not bring it back
  refine (replaced_maskOne nonempty _).not_infix_result (apart_self nonempty)
    (infix_of_infix_foldl_maskOne ?_ ?_ occurs)
  · exact fun other mem => (of_mem mem).2
  · exact fun other mem => apart_after other (of_mem mem).1 (of_mem mem).2

/-- A token and a longer one that begins with it, a password before them and an empty secret
between them. -/
theorem mask_conceals_tokens :
    let token : Secret := ⟨"pypi-prod-token"⟩
    let masker := ofList ([⟨"hunter2"⟩] ++ token :: [⟨""⟩, ⟨"pypi-prod-token-2"⟩])
    let text := "-u hunter2 -p pypi-prod-token-2 pypi-prod-tokenpypi-prod-token"
    masker.mask text = "-u **** -p pyp...ken-2 pyp...kenpyp...ken" ∧
      ¬ token.IsIn (masker.mask text) := by
  intro token masker text
  have apart : ∀ other ∈ [token, ⟨""⟩, ⟨"pypi-prod-token-2"⟩], other.exposed ≠ "" →
      Apart 0 other.masked.toList token.exposed.toList := by
    decide +kernel
  exact ⟨by decide +kernel, mask_conceals (by decide) apart text⟩

/-! ### A secret that is not apart from its masked form -/

/-- A long secret can be read in a text after masking only if two occurrences of it share some of
the three characters at their ends, or if it is not apart from the rest of its masked form. -/
theorem overlapsIn_of_isIn_mask {secret : Secret} (long : 10 ≤ secret.exposed.toList.length)
    (apart : Apart 3 secret.masked.toList secret.exposed.toList) {text : String}
    (left : secret.IsIn ((register {} secret).mask text)) :
    OverlapsIn 3 text.toList secret.exposed.toList := by
  have nonempty : secret.exposed ≠ "" := by
    intro empty
    simp [empty] at long
  rw [Secret.IsIn, toList_mask_register nonempty] at left
  exact (replaced_maskOne nonempty _).overlapsIn_of_infix_result apart (by omega)
    (Secret.take_toList_masked long) (Secret.rtake_toList_masked long) left

/-- A secret that begins as its masked form ends can be read in a text after masking: one in which
it overlaps itself in that part. -/
theorem isIn_mask_of_started {secret : Secret} {part rest : List Char} (nonempty : part ≠ [])
    (starts : secret.exposed.toList = part ++ rest) (ends : part <:+ secret.masked.toList) :
    secret.IsIn ((register {} secret).mask (secret.exposed ++ String.ofList rest)) := by
  have exposed_ne : secret.exposed.toList ≠ [] := by
    rw [starts]
    exact List.append_ne_nil_of_left_ne_nil nonempty rest
  have shorter : rest.length < secret.exposed.toList.length := by
    have := List.length_pos_of_ne_nil nonempty
    rw [starts, List.length_append]
    omega
  have absent : ¬ secret.exposed.toList <:+: rest := fun occurs =>
    absurd occurs.length_le (Nat.not_le.2 shorter)
  -- the first occurrence is replaced, and what is left is too short for another one
  have masked : maskOne (secret.exposed.toList ++ rest) secret = secret.masked.toList ++ rest := by
    rw [maskOne, replaceAll_append _ _ exposed_ne, replaceAll_of_not_infix _ absent,
      Secret.masked, String.toList_ofList]
  obtain ⟨front, eq⟩ := ends
  rw [Secret.IsIn, toList_mask_register (by simpa using exposed_ne), String.toList_append,
    String.toList_ofList, masked, ← eq, List.append_assoc, ← starts]
  exact (List.suffix_append _ _).isInfix

/-- **A long secret can be left in a text by masking.**  It is one that begins with the three
characters that it ends with, and occurs twice, overlapping itself. -/
theorem overlapping_secret_left :
    let secret : Secret := ⟨"abcdefgabc"⟩
    10 ≤ secret.exposed.toList.length ∧
      (ofList [secret]).mask "abcdefgabcdefgabc" = "abc...abcdefgabc" ∧
      secret.IsIn ((ofList [secret]).mask "abcdefgabcdefgabc") := by
  intro secret
  refine ⟨by decide, by decide +kernel, ?_⟩
  show secret.IsIn ((ofList [secret]).mask (secret.exposed ++ String.ofList "defgabc".toList))
  have starts : secret.exposed.toList = ['a', 'b', 'c'] ++ "defgabc".toList := by decide
  have ends : ['a', 'b', 'c'] <:+ secret.masked.toList := by decide
  exact isIn_mask_of_started (List.cons_ne_nil _ _) starts ends

end Masker

end PackageRelease
