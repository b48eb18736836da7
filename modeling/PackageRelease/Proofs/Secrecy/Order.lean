/-
PackageRelease/Proofs/Secrecy/Order.lean

Whether it makes a difference in which order secrets are registered.

Each secret is masked in what the ones before it have left, and so it does:

    tok, token in token          ****en      token, tok          ****
    token, (****) in (token)     ****        (****), token       (****)

In the first line the two share characters in the text, and in the second one
the masked form of one makes up the other, with what stands beside it.  If
neither happens the order makes no difference (`mask_eq_of_perm`).  A secret
without a dot and without a star is mixed up with no masked form
(`Secret.unmixed_of_plain`), so that for such secrets it is the text that
decides.
-/
import PackageRelease.Proofs.Secrecy.Masking
import PackageRelease.Proofs.Text.Interchange

namespace PackageRelease

/-! ### Words without the characters of a bar -/

section Bar

variable {word front bar back : List Char} (absent : ∀ c ∈ word, c ∉ bar)

include absent

theorem eq_nil_of_infix_bar (within : word <:+: bar) : word = [] :=
  List.eq_nil_iff_forall_not_mem.2 fun c mem => absent c mem (within.subset mem)

/-- A word that ends behind the bar begins behind it. -/
theorem suffix_of_bar (nonempty : bar ≠ []) (ends : word <:+ front ++ (bar ++ back)) :
    word <:+ back := by
  obtain ⟨c, mem⟩ := List.exists_mem_of_ne_nil bar nonempty
  rcases List.suffix_or_suffix_of_suffix ends (List.suffix_append front _) with short | around
  · rcases List.suffix_or_suffix_of_suffix short (List.suffix_append bar back) with
      behind | ⟨part, rfl⟩
    · exact behind
    · have part_absent : ∀ c ∈ part, c ∉ bar := fun c mem => absent c (List.mem_append_left _ mem)
      rw [eq_nil_of_infix_bar part_absent (List.suffix_append_self_iff.1 short).isInfix,
        List.nil_append]
  · exact absurd mem (absent c (around.subset (List.mem_append_left _ mem)))

/-- A word that begins in front of the bar ends in front of it. -/
theorem prefix_of_bar (nonempty : bar ≠ []) (begins : word <+: front ++ (bar ++ back)) :
    word <+: front := by
  rw [← List.reverse_suffix] at begins ⊢
  rw [List.reverse_append, List.reverse_append, List.append_assoc] at begins
  exact suffix_of_bar (by simpa using absent) (by simpa using nonempty) begins

/-- A word lies in front of the bar or behind it. -/
theorem infix_of_bar (nonempty : bar ≠ []) (within : word <:+: front ++ (bar ++ back)) :
    word <:+: front ∨ word <:+: back := by
  rcases List.infix_append_iff.1 within with left | right | ⟨part, rest, rfl, ends, begins⟩
  · exact .inl left
  · rcases List.infix_append_iff.1 right with inside | behind | ⟨part, rest, rfl, ends, begins⟩
    · rw [eq_nil_of_infix_bar absent inside]
      exact .inl List.nil_infix
    · exact .inr behind
    · have part_absent : ∀ c ∈ part, c ∉ bar := fun c mem => absent c (List.mem_append_left _ mem)
      rw [eq_nil_of_infix_bar part_absent ends.isInfix, List.nil_append]
      exact .inr begins.isInfix
  · have rest_absent : ∀ c ∈ rest, c ∉ bar := fun c mem => absent c (List.mem_append_right _ mem)
    have nothing : rest <+: [] := prefix_of_bar rest_absent nonempty begins
    rw [List.prefix_nil.1 nothing, List.append_nil]
    exact .inl ends.isInfix

end Bar

namespace Secret

/-! ### Two secrets -/

/-- No two occurrences of the secrets in the text share a character. -/
def AsideIn (text : String) (secret other : Secret) : Prop :=
  Aside text.toList secret.exposed.toList other.exposed.toList

instance (text : String) (secret other : Secret) : Decidable (secret.AsideIn text other) := by
  unfold AsideIn
  infer_instance

/-- Neither secret can be mixed up with the masked form of the other one. -/
def UnmixedWith (secret other : Secret) : Prop :=
  Unmixed secret.exposed.toList secret.masked.toList other.exposed.toList ∧
    Unmixed other.exposed.toList other.masked.toList secret.exposed.toList

/-- The secret has none of the characters that masked forms consist of besides its own. -/
def Plain (secret : Secret) : Prop :=
  '.' ∉ secret.exposed.toList ∧ '*' ∉ secret.exposed.toList

instance (secret : Secret) : Decidable secret.Plain := by
  unfold Plain
  infer_instance

variable {secret other : Secret}

theorem UnmixedWith.symm (unmixed : secret.UnmixedWith other) : other.UnmixedWith secret :=
  ⟨unmixed.2, unmixed.1⟩

/-- **A secret without a dot and without a star is mixed up with no masked form.** -/
theorem unmixed_of_plain (plain : other.Plain) :
    Unmixed secret.exposed.toList secret.masked.toList other.exposed.toList := by
  obtain ⟨dotless, starless⟩ := plain
  rcases Nat.lt_or_ge secret.exposed.toList.length 10 with short | long
  · -- the masked form has nothing but stars
    have form : secret.masked.toList = mask.toList := by
      rw [masked, String.toList_ofList, maskedChars, partialLength, if_pos short]
    have absent {part : List Char} (within : part <:+: other.exposed.toList) :
        ∀ c ∈ part, c ∉ mask.toList := by
      intro c mem star
      have star : c = '*' := by simpa [mask] using star
      exact starless (within.subset (star ▸ mem))
    rw [form]
    refine ⟨fun within => ?_, fun around => ?_, fun part ends begins => ?_,
      fun part begins ends => ?_⟩
    · rw [eq_nil_of_infix_bar (absent List.infix_rfl) within]
      exact List.nil_infix
    · exact starless (around.subset (by decide))
    · rw [eq_nil_of_infix_bar (absent begins.isInfix) ends.isInfix]
      exact List.nil_suffix
    · rw [eq_nil_of_infix_bar (absent ends.isInfix) begins.isInfix]
      exact List.nil_prefix
  · -- what the masked form has in front of its dots and behind them, the secret has, too
    have first : secret.exposed.toList.take 3 <+: secret.exposed.toList := List.take_prefix _ _
    have last : secret.exposed.toList.rtake 3 <:+ secret.exposed.toList := List.drop_suffix _ _
    have absent {part : List Char} (within : part <:+: other.exposed.toList) :
        ∀ c ∈ part, c ∉ ['.', '.', '.'] := by
      intro c mem dot
      have dot : c = '.' := by simpa using dot
      exact dotless (within.subset (dot ▸ mem))
    have dots : ['.', '.', '.'] ≠ [] := List.cons_ne_nil _ _
    rw [toList_masked long]
    refine ⟨fun within => ?_, fun around => ?_, fun part ends begins => ?_,
      fun part begins ends => ?_⟩
    · rcases infix_of_bar (absent List.infix_rfl) dots within with front | behind
      · exact front.trans first.isInfix
      · exact behind.trans last.isInfix
    · exact dotless (around.subset (by simp))
    · exact (suffix_of_bar (absent begins.isInfix) dots ends).trans last
    · exact (prefix_of_bar (absent ends.isInfix) dots begins).trans first

end Secret

namespace Masker

variable {secrets secrets' : List Secret}

/-! ### Any number of secrets -/

/-- Masking another secret brings no two secrets together. -/
theorem aside_maskOne {text : List Char} {secret first second : Secret}
    (aside : Aside text first.exposed.toList second.exposed.toList)
    (aside' : Aside text second.exposed.toList secret.exposed.toList)
    (unmixed : secret.UnmixedWith first) (unmixed' : secret.UnmixedWith second)
    (nonempty : secret.exposed ≠ "") (second_ne : second.exposed ≠ "") :
    Aside (maskOne text secret) first.exposed.toList second.exposed.toList := by
  rw [maskOne, ← String.toList_ofList (l := Secret.maskedChars secret.exposed.toList)]
  exact aside.replaceAll aside' unmixed.1 unmixed'.1 (by simpa using nonempty)
    (by simpa using second_ne)

theorem maskOne_comm {text : List Char} {first second : Secret}
    (unmixed : first.UnmixedWith second) (first_ne : first.exposed ≠ "")
    (second_ne : second.exposed ≠ "")
    (aside : Aside text first.exposed.toList second.exposed.toList) :
    maskOne (maskOne text second) first = maskOne (maskOne text first) second := by
  have comm := replaceAll_comm unmixed.1 unmixed.2 (by simpa using first_ne)
    (by simpa using second_ne) aside
  rwa [Secret.masked, Secret.masked, String.toList_ofList, String.toList_ofList] at comm

/-- The secrets can be masked in another order. -/
theorem foldl_maskOne_perm {text : List Char} (perm : secrets.Perm secrets')
    (nonempty : ∀ secret ∈ secrets, secret.exposed ≠ "")
    (aside : ∀ first ∈ secrets, ∀ second ∈ secrets, first ≠ second →
      Aside text first.exposed.toList second.exposed.toList)
    (unmixed : secrets.Pairwise Secret.UnmixedWith) :
    secrets.foldl maskOne text = secrets'.foldl maskOne text := by
  induction perm generalizing text with
  | nil => rfl
  | @cons secret secrets secrets' perm ih =>
    obtain ⟨unmixed_head, unmixed⟩ := List.pairwise_cons.1 unmixed
    obtain ⟨head_ne, rest_ne⟩ := List.forall_mem_cons.1 nonempty
    rw [List.foldl_cons, List.foldl_cons]
    refine ih rest_ne (fun first mem second mem' different => ?_) unmixed
    have together : Aside text first.exposed.toList second.exposed.toList :=
      aside first (List.mem_cons_of_mem _ mem) second (List.mem_cons_of_mem _ mem') different
    -- one of the two is not the secret that has been masked, though the other one may be
    by_cases same : second = secret
    · subst same
      exact (aside_maskOne together.symm together (unmixed_head _ mem') (unmixed_head _ mem)
        head_ne (rest_ne _ mem)).symm
    · exact aside_maskOne together
        (aside second (List.mem_cons_of_mem _ mem') secret List.mem_cons_self same)
        (unmixed_head _ mem) (unmixed_head _ mem') head_ne (rest_ne _ mem')
  | swap first second secrets =>
    obtain ⟨unmixed_head, -⟩ := List.pairwise_cons.1 unmixed
    rw [List.foldl_cons, List.foldl_cons, List.foldl_cons, List.foldl_cons]
    by_cases same : first = second
    · rw [same]
    · have mem : first ∈ second :: first :: secrets := by simp
      have mem' : second ∈ second :: first :: secrets := by simp
      rw [maskOne_comm (unmixed_head first List.mem_cons_self).symm (nonempty _ mem)
        (nonempty _ mem') (aside _ mem _ mem' same)]
  | @trans secrets between secrets' perm perm' ih ih' =>
    refine (ih nonempty aside unmixed).trans (ih' ?_ ?_ ?_)
    · exact fun secret mem => nonempty secret (perm.mem_iff.2 mem)
    · exact fun first mem second mem' =>
        aside first (perm.mem_iff.2 mem) second (perm.mem_iff.2 mem')
    · exact (perm.pairwise_iff Secret.UnmixedWith.symm).1 unmixed

theorem toList_mask_of_nonempty (nonempty : ∀ secret ∈ secrets, secret.exposed ≠ "")
    (text : String) : ((ofList secrets).mask text).toList = secrets.foldl maskOne text.toList := by
  have kept : secrets.filter (fun secret => !secret.exposed.isEmpty) = secrets :=
    List.filter_eq_self.2 fun secret mem => by simpa using nonempty secret mem
  rw [toList_mask_ofList, kept]

/-- **The order in which secrets are registered makes no difference** to a text in which no two of
them share a character, if none of them can be mixed up with the masked form of another one.  Those
without a dot and without a star cannot. -/
theorem mask_eq_of_perm {secrets : List Secret}
    (nonempty : ∀ secret ∈ secrets, secret.exposed ≠ "") :
    (∀ (secrets' : List Secret) (text : String), secrets.Perm secrets' →
      (∀ first ∈ secrets, ∀ second ∈ secrets, first ≠ second → first.AsideIn text second) →
      secrets.Pairwise Secret.UnmixedWith →
      (ofList secrets).mask text = (ofList secrets').mask text) ∧
    ((∀ secret ∈ secrets, secret.Plain) → secrets.Pairwise Secret.UnmixedWith) := by
  refine ⟨fun secrets' text perm aside unmixed => ?_, fun plain => ?_⟩
  · have nonempty' : ∀ secret ∈ secrets', secret.exposed ≠ "" :=
      fun secret mem => nonempty secret (perm.mem_iff.2 mem)
    rw [← String.toList_inj, toList_mask_of_nonempty nonempty, toList_mask_of_nonempty nonempty']
    exact foldl_maskOne_perm perm nonempty aside unmixed
  · refine List.pairwise_iff_forall_sublist.2 fun {first second} sub => ?_
    have mem : first ∈ secrets := sub.subset (by simp)
    have mem' : second ∈ secrets := sub.subset (by simp)
    exact ⟨Secret.unmixed_of_plain (plain second mem'), Secret.unmixed_of_plain (plain first mem)⟩

/-- Three tokens, the shortest of them registered twice, in two orders. -/
theorem mask_eq_of_perm_tokens :
    let secrets : List Secret := [⟨"hunter2"⟩, ⟨"pypi-prod-token"⟩, ⟨"token-2"⟩, ⟨"hunter2"⟩]
    let secrets' : List Secret := [⟨"token-2"⟩, ⟨"hunter2"⟩, ⟨"hunter2"⟩, ⟨"pypi-prod-token"⟩]
    secrets.Perm secrets' ∧ secrets ≠ secrets' ∧
      (ofList secrets).mask "-u hunter2 -p pypi-prod-token/token-2"
        = (ofList secrets').mask "-u hunter2 -p pypi-prod-token/token-2" := by
  intro secrets secrets'
  have perm : secrets.Perm secrets' := by decide
  have nonempty : ∀ secret ∈ secrets, secret.exposed ≠ "" := by decide
  obtain ⟨same, unmixed⟩ := mask_eq_of_perm nonempty
  have aside : ∀ first ∈ secrets, ∀ second ∈ secrets, first ≠ second →
      first.AsideIn "-u hunter2 -p pypi-prod-token/token-2" second := by
    decide +kernel
  exact ⟨perm, by decide, same secrets' _ perm aside (unmixed (by decide))⟩

/-- **The order can make a difference**: if two secrets share characters, whether one of them is
in the other one or not, and also if the masked form of one, with what is beside it, makes up the
other one or the same one again. -/
theorem registration_order_told :
    let differ (secrets secrets' : List Secret) (text masked masked' : String) : Prop :=
      secrets.Perm secrets' ∧ (∀ secret ∈ secrets, secret.exposed ≠ "") ∧
        (ofList secrets).mask text = masked ∧ (ofList secrets').mask text = masked' ∧
        masked ≠ masked'
    differ [⟨"tok"⟩, ⟨"token"⟩] [⟨"token"⟩, ⟨"tok"⟩] "token" "****en" "****" ∧
      differ [⟨"ab-cd"⟩, ⟨"cd-ef"⟩] [⟨"cd-ef"⟩, ⟨"ab-cd"⟩] "ab-cd-ef" "****-ef" "ab-****" ∧
      differ [⟨"token"⟩, ⟨"(****)"⟩] [⟨"(****)"⟩, ⟨"token"⟩] "(token)" "****" "(****)" ∧
      differ [⟨".fgh123fgh"⟩, ⟨".fgh123fgh"⟩, ⟨"3fghz"⟩] [⟨".fgh123fgh"⟩, ⟨"3fghz"⟩, ⟨".fgh123fgh"⟩]
        ".fgh123fgh123fghz" ".fg...fg...fghz" ".fg...fgh12****" := by
  intro differ
  decide +kernel

end Masker

end PackageRelease
