/-
PackageRelease/Proofs/Text/Interchange.lean

Replacing one needle, and another one in what comes of that.

Two things can make a difference to which of them is replaced first.  In the
text the two may overlap, so that one is gone once the other one is replaced:

    ab, bc in abc    first ab: the mark and c    first bc: a and the mark

And the mark of one, with what stands beside it, may make up the other one.
Neither can happen if no two occurrences of them share a character (`Aside`) and
neither has more in common with the mark of the other one than with the other
one itself (`Unmixed`).  Then it makes no difference (`replaceAll_comm`).

What comes of replacing a needle that neither of two words can be mixed up with
has no occurrences of them that share a character if the text has none
(`Aside.replaceAll`), so that there may be any number of needles.
-/
import PackageRelease.Proofs.Secret
import PackageRelease.Proofs.Text.Replacement

namespace PackageRelease

variable {needle mark word text : List Char}

/-! ### Occurrences without a common character -/

/-- Wherever the two words stand in the text, one of them has ended where the other one begins. -/
def Aside (text first second : List Char) : Prop :=
  ∀ i j, first <+: text.drop i → second <+: text.drop j →
    i + first.length ≤ j ∨ j + second.length ≤ i

theorem aside_iff {first second : List Char} :
    Aside text first second ↔ ∀ i < text.length, ∀ j < text.length,
      first <+: text.drop i → second <+: text.drop j →
        i + first.length ≤ j ∨ j + second.length ≤ i := by
  refine ⟨fun aside i _ j _ => aside i j, fun aside i j begins begins' => ?_⟩
  by_contra overlap
  -- both stand in the text, and so does what they share
  have room := begins.length_le
  have room' := begins'.length_le
  rw [List.length_drop] at room room'
  exact overlap (aside i (by omega) j (by omega) begins begins')

instance {first second : List Char} : Decidable (Aside text first second) :=
  decidable_of_iff' _ aside_iff

namespace Aside

variable {first second : List Char}

theorem symm (aside : Aside text first second) : Aside text second first :=
  fun i j begins begins' => (aside j i begins' begins).symm

theorem of_append (front : List Char) (aside : Aside (front ++ text) first second) :
    Aside text first second := by
  intro i j begins begins'
  have shifted (i : Nat) : (front ++ text).drop (front.length + i) = text.drop i := by
    rw [List.drop_append, List.drop_eq_nil_of_le (Nat.le_add_right _ _), List.nil_append,
      Nat.add_sub_cancel_left]
  have apart := aside (front.length + i) (front.length + j)
    (by rwa [shifted]) (by rwa [shifted])
  omega

end Aside

/-- A needle that begins nowhere in the front of a text leaves the front as it is. -/
theorem replaceAll_append_of_forall_not (mark : List Char) {front : List Char}
    (absent : ∀ i < front.length, ¬ needle <+: (front ++ text).drop i) :
    replaceAll needle mark (front ++ text) = front ++ replaceAll needle mark text := by
  induction front with
  | nil => rfl
  | cons c front ih =>
    have apart : ¬ needle <+: c :: (front ++ text) := absent 0 (Nat.zero_lt_succ _)
    rw [List.cons_append, replaceAll_cons mark apart,
      ih fun i lt => absent (i + 1) (Nat.succ_lt_succ lt), List.cons_append]

/-- A word with which the text begins stays where it is if the needle is aside from it. -/
theorem Aside.replaceAll_append (mark : List Char) (aside : Aside (word ++ text) word needle)
    (nonempty : needle ≠ []) :
    replaceAll needle mark (word ++ text) = word ++ replaceAll needle mark text := by
  refine replaceAll_append_of_forall_not mark fun i within begins => ?_
  have first : word <+: (word ++ text).drop 0 := List.prefix_append _ _
  have := aside 0 i first begins
  have := List.length_pos_of_ne_nil nonempty
  omega

/-! ### Words and marks -/

/-- The word cannot be mixed up with the mark of a needle: what it has in common with the mark it
has in common with the needle. -/
structure Unmixed (needle mark word : List Char) : Prop where
  within : word <:+: mark → word <:+: needle
  not_around : ¬ mark <:+: word
  opens : ∀ part, part <:+ mark → part <+: word → part <:+ needle
  closes : ∀ part, part <+: mark → part <:+ word → part <+: needle

theorem unmixed_iff :
    Unmixed needle mark word ↔
      (word <:+: mark → word <:+: needle) ∧ ¬ mark <:+: word ∧
      (∀ part ∈ mark.tails, part <+: word → part <:+ needle) ∧
      ∀ part ∈ mark.inits, part <:+ word → part <+: needle := by
  simp only [List.mem_tails, List.mem_inits]
  constructor
  · rintro ⟨within, around, opens, closes⟩
    exact ⟨within, around, opens, closes⟩
  · rintro ⟨within, around, opens, closes⟩
    exact ⟨within, around, opens, closes⟩

instance : Decidable (Unmixed needle mark word) := decidable_of_iff' _ unmixed_iff

theorem mark_infix_replaceAll (nonempty : needle ≠ []) (occurs : needle <:+: text) :
    mark <:+: replaceAll needle mark text := by
  induction scanned nonempty text with
  | done => exact absurd (List.infix_nil.1 occurs) nonempty
  | hit =>
    rw [PackageRelease.replaceAll_append mark _ nonempty]
    exact (List.prefix_append _ _).isInfix
  | pass apart scanned ih =>
    rw [replaceAll_cons mark apart]
    exact List.infix_cons (ih ((List.infix_cons_iff.1 occurs).resolve_left apart))

/-- Where there is no mark afterwards nothing has been replaced. -/
theorem replaceAll_eq_self (nonempty : needle ≠ [])
    (unmarked : ¬ mark <:+: replaceAll needle mark text) : replaceAll needle mark text = text :=
  replaceAll_of_not_infix mark fun occurs => unmarked (mark_infix_replaceAll nonempty occurs)

namespace Unmixed

variable {part : List Char} (unmixed : Unmixed needle mark word)
variable (needle_ne : needle ≠ []) (word_ne : word ≠ [])

include unmixed needle_ne

/-- The text begins with an end of the word if what comes of replacing does. -/
theorem prefix_of_prefix_replaceAll (ends : part <:+ word)
    (begins : part <+: replaceAll needle mark text) : part <+: text := by
  induction scanned needle_ne text generalizing part with
  | done => exact begins
  | @hit text =>
    rw [PackageRelease.replaceAll_append mark text needle_ne] at begins
    rcases List.prefix_or_prefix_of_prefix begins (List.prefix_append mark _) with short | around
    · exact (unmixed.closes part short ends).trans (List.prefix_append _ _)
    · exact absurd (around.isInfix.trans ends.isInfix) unmixed.not_around
  | @pass c text apart scanned ih =>
    rw [replaceAll_cons mark apart] at begins
    rcases part with - | ⟨d, part⟩
    · exact List.nil_prefix
    · obtain ⟨rfl, behind⟩ := List.cons_prefix_cons.1 begins
      exact List.cons_prefix_cons.2 ⟨rfl, ih ((List.suffix_cons d part).trans ends) behind⟩

/-- The word begins in front of a text if it does so in front of what comes of replacing. -/
theorem prefix_append (front : List Char) (begins : word <+: front ++ replaceAll needle mark text) :
    word <+: front ++ text := by
  rcases List.prefix_or_prefix_of_prefix begins (List.prefix_append front _) with
    short | ⟨rest, rfl⟩
  · exact short.trans (List.prefix_append _ _)
  · rw [List.prefix_append_right_inj] at begins ⊢
    exact unmixed.prefix_of_prefix_replaceAll needle_ne (List.suffix_append _ _) begins

/-- The text ends with a beginning of the word if what comes of replacing does. -/
theorem suffix_of_suffix_replaceAll (begins : part <+: word)
    (ends : part <:+ replaceAll needle mark text) : part <:+ text := by
  have unmarked {rest : List Char} (within : replaceAll needle mark rest <:+ part) :
      replaceAll needle mark rest = rest :=
    replaceAll_eq_self needle_ne fun occurs =>
      unmixed.not_around (occurs.trans (within.isInfix.trans begins.isInfix))
  induction scanned needle_ne text with
  | done => exact ends
  | @hit text scanned ih =>
    rw [PackageRelease.replaceAll_append mark text needle_ne] at ends
    rcases List.suffix_or_suffix_of_suffix ends (List.suffix_append mark _) with
      short | ⟨head, rfl⟩
    · exact (ih short).trans (List.suffix_append _ _)
    · have head_ends : head <:+ mark := List.suffix_append_self_iff.1 ends
      have same := unmixed.opens head head_ends ((List.prefix_append _ _).trans begins)
      rw [unmarked (List.suffix_append _ _)]
      exact List.suffix_append_self_iff.2 same
  | @pass c text apart scanned ih =>
    rw [replaceAll_cons mark apart] at ends
    rcases List.suffix_cons_iff.1 ends with rfl | short
    · rw [unmarked (List.suffix_cons _ _)]
    · exact (ih short).trans (List.suffix_cons _ _)

include word_ne

/-- The word does not begin in the mark of a needle that has been replaced. -/
theorem not_prefix_mark (aside : Aside (needle ++ text) word needle) (ends : part <:+ mark)
    (nonempty : part ≠ []) : ¬ word <+: part ++ replaceAll needle mark text := by
  intro begins
  have first : needle <+: (needle ++ text).drop 0 := List.prefix_append _ _
  have room := List.length_pos_of_ne_nil word_ne
  have room' := List.length_pos_of_ne_nil nonempty
  rcases List.prefix_or_prefix_of_prefix begins (List.prefix_append part _) with
    inside | ⟨rest, rfl⟩
  · -- it lies in the mark, and so in the needle
    obtain ⟨before, after, rfl⟩ := unmixed.within (inside.isInfix.trans ends.isInfix)
    have stands : word <+: (before ++ word ++ after ++ text).drop before.length := by
      rw [List.append_assoc, List.append_assoc, List.drop_left]
      exact List.prefix_append _ _
    have := aside before.length 0 stands first
    simp only [List.length_append] at this
    omega
  · -- it begins with an end of the mark, and so with an end of the needle
    obtain ⟨before, rfl⟩ := unmixed.opens part ends (List.prefix_append _ _)
    have stands : part ++ rest <+: (before ++ part ++ text).drop before.length := by
      rw [List.append_assoc, List.drop_left]
      exact unmixed.prefix_append needle_ne _ begins
    have := aside before.length 0 stands first
    simp only [List.length_append] at this
    omega

end Unmixed

/-! ### Two needles -/

section Two

variable {first second firstMark secondMark : List Char}

/-- Where a text begins with one of two needles, it makes no difference which one is replaced
first if it makes none in what is behind. -/
theorem replaceAll_comm_append (unmixed : Unmixed first firstMark second) (first_ne : first ≠ [])
    (second_ne : second ≠ []) (aside : Aside (first ++ text) first second)
    (comm : replaceAll first firstMark (replaceAll second secondMark text)
      = replaceAll second secondMark (replaceAll first firstMark text)) :
    replaceAll first firstMark (replaceAll second secondMark (first ++ text))
      = replaceAll second secondMark (replaceAll first firstMark (first ++ text)) := by
  have untouched : replaceAll second secondMark (firstMark ++ replaceAll first firstMark text)
      = firstMark ++ replaceAll second secondMark (replaceAll first firstMark text) := by
    refine replaceAll_append_of_forall_not secondMark fun i within => ?_
    rw [List.drop_append_of_le_length within.le]
    refine unmixed.not_prefix_mark first_ne second_ne aside.symm (List.drop_suffix _ _) ?_
    rw [← List.length_pos_iff, List.length_drop]
    omega
  rw [aside.replaceAll_append secondMark second_ne, replaceAll_append firstMark _ first_ne,
    replaceAll_append firstMark _ first_ne, untouched, comm]

/-- **It makes no difference which of two needles is replaced first**, if no two occurrences of them
in the text share a character and neither can be mixed up with the mark of the other one. -/
theorem replaceAll_comm (unmixed : Unmixed first firstMark second)
    (unmixed' : Unmixed second secondMark first) (first_ne : first ≠ []) (second_ne : second ≠ [])
    (aside : Aside text first second) :
    replaceAll first firstMark (replaceAll second secondMark text)
      = replaceAll second secondMark (replaceAll first firstMark text) := by
  induction length : text.length using Nat.strong_induction_on generalizing text with
  | h n ih =>
    subst length
    by_cases begins : first <+: text
    · obtain ⟨rest, rfl⟩ := begins
      have shorter : rest.length < (first ++ rest).length := by
        have := List.length_pos_of_ne_nil first_ne
        rw [List.length_append]
        omega
      exact replaceAll_comm_append unmixed first_ne second_ne aside
        (ih _ shorter (aside.of_append _) rfl)
    by_cases begins' : second <+: text
    · obtain ⟨rest, rfl⟩ := begins'
      have shorter : rest.length < (second ++ rest).length := by
        have := List.length_pos_of_ne_nil second_ne
        rw [List.length_append]
        omega
      exact (replaceAll_comm_append unmixed' second_ne first_ne aside.symm
        (ih _ shorter (aside.of_append _) rfl).symm).symm
    cases text with
    | nil => rfl
    | cons c text =>
      -- neither needle begins here, nor does it once the other one has been replaced
      have apart : ¬ first <+: c :: replaceAll second secondMark text := fun starts =>
        begins (unmixed'.prefix_append second_ne [c] starts)
      have apart' : ¬ second <+: c :: replaceAll first firstMark text := fun starts =>
        begins' (unmixed.prefix_append first_ne [c] starts)
      have behind : Aside text first second := aside.of_append [c]
      rw [replaceAll_cons secondMark begins', replaceAll_cons firstMark apart,
        replaceAll_cons firstMark begins, replaceAll_cons secondMark apart',
        ih _ (Nat.lt_succ_self _) behind rfl]

end Two

/-! ### Any number of needles -/

/-- A word that stands in what comes of replacing stands in a piece of the text. -/
theorem Unmixed.exists_of_prefix_drop (unmixed : Unmixed needle mark word) (needle_ne : needle ≠ [])
    (word_ne : word ≠ []) (aside : Aside text word needle) {j : Nat}
    (stands : word <+: (replaceAll needle mark text).drop j) :
    ∃ before after, text = before ++ after ∧ (replaceAll needle mark before).length = j ∧
      replaceAll needle mark text
        = replaceAll needle mark before ++ replaceAll needle mark after ∧
      word <+: after := by
  induction scanned needle_ne text generalizing j with
  | done =>
    have nothing : word = [] := by
      simpa [replaceAll, replaceFrom] using stands
    exact absurd nothing word_ne
  | @hit text scanned ih =>
    rw [replaceAll_append mark text needle_ne] at stands
    rcases Nat.lt_or_ge j mark.length with inside | behind
    · rw [List.drop_append_of_le_length inside.le] at stands
      refine absurd stands (unmixed.not_prefix_mark needle_ne word_ne aside
        (List.drop_suffix _ _) ?_)
      rw [← List.length_pos_iff, List.length_drop]
      omega
    · rw [List.drop_append, List.drop_eq_nil_of_le behind, List.nil_append] at stands
      obtain ⟨before, after, rfl, length, eq, begins⟩ := ih (aside.of_append _) stands
      refine ⟨needle ++ before, after, by rw [List.append_assoc], ?_, ?_, begins⟩
      · rw [replaceAll_append mark _ needle_ne, List.length_append]
        omega
      · rw [replaceAll_append mark _ needle_ne, replaceAll_append mark _ needle_ne, eq,
          List.append_assoc]
  | @pass c text apart scanned ih =>
    cases j with
    | zero =>
      refine ⟨[], c :: text, rfl, rfl, rfl, ?_⟩
      rw [replaceAll_cons mark apart, List.drop_zero] at stands
      exact unmixed.prefix_append needle_ne [c] stands
    | succ j =>
      rw [replaceAll_cons mark apart, List.drop_succ_cons] at stands
      have behind : Aside text word needle := aside.of_append [c]
      obtain ⟨before, after, rfl, length, eq, begins⟩ := ih behind stands
      have apart' : ¬ needle <+: c :: before := fun starts =>
        apart (starts.trans (List.prefix_append (c :: before) after))
      refine ⟨c :: before, after, rfl, ?_, ?_, begins⟩
      · rw [replaceAll_cons mark apart', List.length_cons, length]
      · rw [replaceAll_cons mark apart, replaceAll_cons mark apart', eq, List.cons_append]

/-- **Replacing a needle brings no two words together**: they share no character afterwards if they
have shared none before, one of them shares none with the needle, and neither can be mixed up with
the mark. -/
theorem Aside.replaceAll {first second : List Char} (aside : Aside text first second)
    (aside' : Aside text second needle) (unmixed : Unmixed needle mark first)
    (unmixed' : Unmixed needle mark second) (needle_ne : needle ≠ []) (second_ne : second ≠ []) :
    Aside (PackageRelease.replaceAll needle mark text) first second := by
  intro i j stands stands'
  obtain ⟨before, after, rfl, length, eq, begins⟩ :=
    unmixed'.exists_of_prefix_drop needle_ne second_ne aside' stands'
  have found : second <+: (before ++ after).drop before.length := by
    rwa [List.drop_left]
  rw [eq] at stands
  by_contra overlap
  rcases Nat.lt_or_ge i j with earlier | later
  · -- the first word begins with an end of what is in front of the second one
    obtain ⟨part, part_eq⟩ : ∃ part, part = (PackageRelease.replaceAll needle mark before).drop i :=
      ⟨_, rfl⟩
    have part_length : part.length = j - i := by
      rw [part_eq, List.length_drop, length]
    rw [List.drop_append_of_le_length (by omega), ← part_eq] at stands
    have part_begins : part <+: first :=
      List.prefix_of_prefix_length_le (List.prefix_append _ _) stands (by omega)
    obtain ⟨front, rfl⟩ : part <:+ before := unmixed.suffix_of_suffix_replaceAll needle_ne
      part_begins (part_eq ▸ List.drop_suffix _ _)
    have found' : first <+: (front ++ part ++ after).drop front.length := by
      rw [List.append_assoc, List.drop_left]
      exact unmixed.prefix_append needle_ne _ stands
    have := aside _ _ found' found
    rw [List.length_append] at this
    omega
  · -- the first word begins in the second one, or behind it
    obtain ⟨rest, rfl⟩ := begins
    rw [(aside'.of_append _).replaceAll_append mark needle_ne, List.drop_append, length,
      List.drop_eq_nil_of_le (length.trans_le later), List.nil_append,
      List.drop_append_of_le_length (by omega)] at stands
    have found' : first <+: (before ++ (second ++ rest)).drop (before.length + (i - j)) := by
      rw [List.drop_append, List.drop_eq_nil_of_le (Nat.le_add_right _ _), List.nil_append,
        Nat.add_sub_cancel_left, List.drop_append_of_le_length (by omega)]
      exact unmixed.prefix_append needle_ne _ stands
    have := aside _ _ found' found
    omega

end PackageRelease
