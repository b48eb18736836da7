/-
PackageRelease/Proofs/Text/Replacement.lean

What becomes of a text in which a needle is replaced by a mark.

The text falls apart at some occurrences of the needle, and the mark takes
their place:

    text    =  p₀ ++ needle ++ p₁ ++ needle ++ ... ++ pₙ
    result  =  p₀ ++ mark   ++ p₁ ++ mark   ++ ... ++ pₙ

Each of these occurrences is the first one in what is left of the text, and in
the last piece there is none (`replaced_replaceAll`).

A word can come into the result that is not in the text: the mark may hold it,
or it may be put together of characters of the mark and of a piece beside it.
Neither can happen with a word that is apart from the mark (`Apart`).  Such a
word is in the result only if it is in the text (`Replaced.infix_text`).

The needle itself can be left in the result.  If the mark keeps some of its
characters at both ends, and the needle is apart from the rest of the mark,
then one reason is left: two occurrences in the text share some of the
characters that are kept (`Replaced.overlapsIn_of_infix_result`).
-/
import Mathlib.Data.List.DropRight
import Mathlib.Data.List.Infix
import PackageRelease.Secret

namespace PackageRelease

variable {n : Nat} {needle mark word text result : List Char}

/-! ### Words beside a mark -/

/-- The word begins with an end of the mark of more than `n` characters. -/
def Opens (n : Nat) (mark word : List Char) : Prop :=
  ∃ part, part <:+ mark ∧ n < part.length ∧ part <+: word

/-- The word ends with a beginning of the mark of more than `n` characters. -/
def Closes (n : Nat) (mark word : List Char) : Prop :=
  ∃ part, part <+: mark ∧ n < part.length ∧ part <:+ word

instance : Decidable (Opens n mark word) :=
  decidable_of_iff (∃ part ∈ mark.tails, n < part.length ∧ part <+: word) <| by
    simp only [List.mem_tails, Opens]

instance : Decidable (Closes n mark word) :=
  decidable_of_iff (∃ part ∈ mark.inits, n < part.length ∧ part <:+ word) <| by
    simp only [List.mem_inits, Closes]

/-- Behind a mark, a word has at most the last `n` characters of the mark. -/
theorem infix_rtake_append (within : ¬ word <:+: mark) (unopened : ¬ Opens n mark word)
    (occurs : word <:+: mark ++ text) : word <:+: mark.rtake n ++ text := by
  rcases List.infix_append_iff.1 occurs with inside | right | ⟨first, last, rfl, ends, begins⟩
  · exact absurd inside within
  · exact right.trans (List.suffix_append _ _).isInfix
  · have short : first.length ≤ n := by
      by_contra long
      exact unopened ⟨first, ends, Nat.lt_of_not_le long, List.prefix_append _ _⟩
    have kept : first <:+ mark.rtake n := by
      refine List.suffix_of_suffix_length_le ends (List.drop_suffix _ _) ?_
      have := ends.length_le
      rw [List.rtake, List.length_drop]
      omega
    exact List.infix_append_iff.2 (.inr (.inr ⟨first, last, rfl, kept, begins⟩))

/-- In front of a mark, a word has at most the first `n` characters of the mark. -/
theorem infix_append_take (within : ¬ word <:+: mark) (unclosed : ¬ Closes n mark word)
    (occurs : word <:+: text ++ mark) : word <:+: text ++ mark.take n := by
  rcases List.infix_append_iff.1 occurs with left | inside | ⟨first, last, rfl, ends, begins⟩
  · exact left.trans (List.prefix_append _ _).isInfix
  · exact absurd inside within
  · have short : last.length ≤ n := by
      by_contra long
      exact unclosed ⟨last, begins, Nat.lt_of_not_le long, List.suffix_append _ _⟩
    have kept : last <+: mark.take n := List.prefix_take_iff.2 ⟨begins, short⟩
    exact List.infix_append_iff.2 (.inr (.inr ⟨first, last, rfl, ends, kept⟩))

/-- No part of the word can come from the mark, unless it is one of the `n` characters at an end
of the mark: neither of the two holds the other, and neither begins as the other one ends but for
so many characters. -/
structure Apart (n : Nat) (mark word : List Char) : Prop where
  not_within : ¬ word <:+: mark
  not_around : ¬ mark <:+: word
  not_opened : ¬ Opens n mark word
  not_closed : ¬ Closes n mark word

theorem apart_iff :
    Apart n mark word ↔
      ¬ word <:+: mark ∧ ¬ mark <:+: word ∧ ¬ Opens n mark word ∧ ¬ Closes n mark word :=
  ⟨fun ⟨within, around, opened, closed⟩ => ⟨within, around, opened, closed⟩,
    fun ⟨within, around, opened, closed⟩ => ⟨within, around, opened, closed⟩⟩

instance : Decidable (Apart n mark word) := decidable_of_iff' _ apart_iff

/-- Around a mark, a word that is apart from it is on one side or on the other, with what it may
have of the mark. -/
theorem Apart.infix_append {before after : List Char} (apart : Apart n mark word)
    (occurs : word <:+: before ++ mark ++ after) :
    word <:+: before ++ mark.take n ∨ word <:+: mark.rtake n ++ after := by
  rw [List.append_assoc] at occurs
  rcases List.infix_append_iff.1 occurs with left | within | ⟨first, last, rfl, ends, begins⟩
  · exact .inl (left.trans (List.prefix_append _ _).isInfix)
  · exact .inr (infix_rtake_append apart.not_within apart.not_opened within)
  · rcases List.prefix_or_prefix_of_prefix begins (List.prefix_append mark after) with part | whole
    · have across : first ++ last <:+: before ++ mark :=
        List.infix_append_iff.2 (.inr (.inr ⟨first, last, rfl, ends, part⟩))
      exact .inl (infix_append_take apart.not_within apart.not_closed across)
    · exact absurd (whole.isInfix.trans (List.suffix_append _ _).isInfix) apart.not_around

/-! ### Replaced texts -/

/-- The result is the text with the needle replaced by the mark, from left to right. -/
inductive Replaced (needle mark : List Char) : List Char → List Char → Prop
  /-- The needle is not there. -/
  | rest {text : List Char} (absent : ¬ needle <:+: text) : Replaced needle mark text text
  /-- No needle ends before the one that is replaced does. -/
  | piece {before text result : List Char} (first : ¬ needle <:+: before ++ needle.dropLast)
      (replaced : Replaced needle mark text result) :
      Replaced needle mark (before ++ needle ++ text) (before ++ mark ++ result)

namespace Replaced

/-- A character with which no needle begins goes to the result as it is. -/
theorem cons {c : Char} (replaced : Replaced needle mark text result)
    (apart : ¬ needle <+: c :: text) : Replaced needle mark (c :: text) (c :: result) := by
  cases replaced with
  | rest absent =>
    refine .rest fun occurs => ?_
    exact (List.infix_cons_iff.1 occurs).elim apart absent
  | @piece before text result first replaced =>
    show Replaced needle mark (c :: before ++ needle ++ text) (c :: before ++ mark ++ result)
    refine .piece (fun occurs => ?_) replaced
    rcases List.infix_cons_iff.1 occurs with begins | occurs
    · apply apart
      refine begins.trans ?_
      rw [List.append_assoc]
      exact List.prefix_append_right_inj (c :: before) |>.2
        ((List.dropLast_prefix needle).trans (List.prefix_append _ _))
    · exact first occurs

/-- Nothing that is apart from the mark comes into the result. -/
theorem infix_text (replaced : Replaced needle mark text result) (apart : Apart 0 mark word)
    (occurs : word <:+: result) : word <:+: text := by
  induction replaced with
  | rest => exact occurs
  | piece first replaced ih =>
    rcases apart.infix_append occurs with left | right
    · rw [List.take_zero, List.append_nil] at left
      rw [List.append_assoc]
      exact left.trans (List.prefix_append _ _).isInfix
    · rw [List.rtake_zero, List.nil_append] at right
      exact (ih right).trans (List.suffix_append _ _).isInfix

end Replaced

/-! ### Needles that overlap -/

/-- The word is twice in the text, and from one to `n` characters at the end of the first
occurrence are the beginning of the second one. -/
def OverlapsIn (n : Nat) (text word : List Char) : Prop :=
  ∃ part, part <+: word ∧ part ≠ [] ∧ part.length ≤ n ∧ part <:+ word ∧
    word ++ word.drop part.length <:+: text

instance : Decidable (OverlapsIn n text word) :=
  decidable_of_iff (∃ part ∈ word.inits, part ≠ [] ∧ part.length ≤ n ∧ part <:+ word ∧
      word ++ word.drop part.length <:+: text) <| by
    simp only [List.mem_inits, OverlapsIn]

theorem OverlapsIn.mono {text' : List Char} (overlaps : OverlapsIn n text word)
    (inside : text <:+: text') : OverlapsIn n text' word := by
  obtain ⟨part, begins, nonempty, short, ends, occurs⟩ := overlaps
  exact ⟨part, begins, nonempty, short, ends, occurs.trans inside⟩

namespace Replaced

section Kept

variable (apart : Apart n mark needle) (proper : n < needle.length)
  (starts : mark.take n <+: needle) (ends : mark.rtake n <:+ needle)

include proper ends in
/-- A needle that has characters of the mark in front of a text shares them with the needle that
has stood there. -/
theorem overlapsIn_of_infix_rtake_append (absent : ¬ needle <:+: text)
    (occurs : needle <:+: mark.rtake n ++ text) : OverlapsIn n (needle ++ text) needle := by
  have short : (mark.rtake n).length ≤ n := by
    rw [List.rtake, List.length_drop]
    omega
  rcases List.infix_append_iff.1 occurs with within | right | ⟨part, rest, eq, part_ends, begins⟩
  · have := within.length_le
    omega
  · exact absurd right absent
  · have nonempty : part ≠ [] := by
      rintro rfl
      rw [eq] at absent
      exact absent begins.isInfix
    refine ⟨part, eq ▸ List.prefix_append _ _, nonempty, part_ends.length_le.trans short,
      part_ends.trans ends, ?_⟩
    have left : needle.drop part.length = rest := by
      rw [eq, List.drop_left]
    rw [left]
    exact ((List.prefix_append_right_inj needle).2 begins).isInfix

include proper starts in
/-- A needle is not made up of characters of the mark and of what is in front of the first one. -/
theorem not_infix_append_take {before : List Char}
    (first : ¬ needle <:+: before ++ needle.dropLast) : ¬ needle <:+: before ++ mark.take n := by
  intro occurs
  have cut : mark.take n <+: needle.dropLast := by
    refine List.prefix_of_prefix_length_le starts (List.dropLast_prefix _) ?_
    rw [List.length_take, List.length_dropLast]
    omega
  exact first (occurs.trans ((List.prefix_append_right_inj before).2 cut).isInfix)

include apart proper starts ends

/-- Behind a needle that has been replaced. -/
theorem overlapsIn_of_infix_rtake_append_result (replaced : Replaced needle mark text result)
    (occurs : needle <:+: mark.rtake n ++ result) : OverlapsIn n (needle ++ text) needle := by
  induction replaced with
  | rest absent => exact overlapsIn_of_infix_rtake_append proper ends absent occurs
  | @piece before text result first replaced ih =>
    rw [← List.append_assoc, ← List.append_assoc] at occurs
    rcases apart.infix_append occurs with left | right
    · -- it lies between two needles that are replaced, and has characters of the first one
      rw [List.append_assoc] at left
      have overlaps := overlapsIn_of_infix_rtake_append proper ends
        (not_infix_append_take proper starts first) left
      refine overlaps.mono ?_
      rw [← List.append_assoc, ← List.append_assoc, ← List.append_assoc]
      exact (((List.prefix_append_right_inj _).2 starts).trans (List.prefix_append _ _)).isInfix
    · refine (ih right).mono ?_
      rw [List.append_assoc before, ← List.append_assoc needle before]
      exact (List.suffix_append _ _).isInfix

/-- **A needle is left in the result only if it overlaps itself in the text.**  The mark has at most
`n` characters of the needle at each end, and the needle is apart from the rest of the mark. -/
theorem overlapsIn_of_infix_result (replaced : Replaced needle mark text result)
    (occurs : needle <:+: result) : OverlapsIn n text needle := by
  cases replaced with
  | rest absent => exact absurd occurs absent
  | piece first replaced =>
    rcases apart.infix_append occurs with left | right
    · exact absurd left (not_infix_append_take proper starts first)
    · refine (overlapsIn_of_infix_rtake_append_result apart proper starts ends replaced right).mono ?_
      rw [List.append_assoc]
      exact (List.suffix_append _ _).isInfix

end Kept

/-- A needle that is apart from the whole mark is not in the result. -/
theorem not_infix_result (replaced : Replaced needle mark text result)
    (apart : Apart 0 mark needle) : ¬ needle <:+: result := by
  intro occurs
  have proper : 0 < needle.length := by
    rw [List.length_pos_iff]
    rintro rfl
    exact apart.not_within List.nil_infix
  obtain ⟨part, -, nonempty, short, -⟩ := replaced.overlapsIn_of_infix_result apart proper
    (by rw [List.take_zero]; exact List.nil_prefix)
    (by rw [List.rtake_zero]; exact List.nil_suffix) occurs
  exact nonempty (List.length_eq_zero_iff.1 (Nat.le_zero.1 short))

end Replaced

/-! ### Replacing -/

theorem replaceAll_append (mark text : List Char) (nonempty : needle ≠ []) :
    replaceAll needle mark (needle ++ text) = mark ++ replaceAll needle mark text := by
  obtain ⟨c, rest, rfl⟩ := List.exists_cons_of_ne_nil nonempty
  have begins : (c :: rest).isPrefixOf (c :: (rest ++ text)) :=
    List.isPrefixOf_iff_prefix.2 (List.prefix_append _ _)
  rw [replaceAll, List.cons_append, replaceFrom, if_pos begins, replaceFrom_drop]
  simp

theorem replaceAll_cons (mark : List Char) {c : Char} (apart : ¬ needle <+: c :: text) :
    replaceAll needle mark (c :: text) = c :: replaceAll needle mark text := by
  rw [replaceAll, replaceFrom, if_neg (mt List.isPrefixOf_iff_prefix.1 apart), replaceAll]

/-- How a text is gone through in search of a needle: an occurrence is passed over as a whole, and
any other character alone. -/
inductive Scanned (needle : List Char) : List Char → Prop
  | done : Scanned needle []
  | hit {text : List Char} (scanned : Scanned needle text) : Scanned needle (needle ++ text)
  | pass {c : Char} {text : List Char} (apart : ¬ needle <+: c :: text)
      (scanned : Scanned needle text) : Scanned needle (c :: text)

theorem scanned (nonempty : needle ≠ []) (text : List Char) : Scanned needle text := by
  -- a needle is passed over as a whole, so the induction is on the length
  induction length : text.length using Nat.strong_induction_on generalizing text with
  | h n ih =>
    subst length
    cases text with
    | nil => exact .done
    | cons c text =>
      by_cases begins : needle <+: c :: text
      · obtain ⟨rest, eq⟩ := begins
        have shorter : rest.length < (c :: text).length := by
          have := List.length_pos_of_ne_nil nonempty
          rw [← eq, List.length_append]
          omega
        rw [← eq]
        exact .hit (ih _ shorter rest rfl)
      · exact .pass begins (ih _ (Nat.lt_succ_self _) text rfl)

/-- What comes of replacing is the text with the needle replaced. -/
theorem replaced_replaceAll (mark : List Char) (nonempty : needle ≠ []) (text : List Char) :
    Replaced needle mark text (replaceAll needle mark text) := by
  induction scanned nonempty text with
  | done => exact .rest fun occurs => nonempty (List.infix_nil.1 occurs)
  | @hit text scanned ih =>
    rw [replaceAll_append mark text nonempty]
    show Replaced needle mark ([] ++ needle ++ text) ([] ++ mark ++ replaceAll needle mark text)
    refine .piece (fun occurs => ?_) ih
    have cut : needle.dropLast.length < needle.length := by
      rw [List.length_dropLast]
      exact Nat.sub_one_lt (List.length_pos_of_ne_nil nonempty).ne'
    exact absurd occurs.length_le (Nat.not_le.2 cut)
  | pass apart scanned ih =>
    rw [replaceAll_cons mark apart]
    exact ih.cons apart

end PackageRelease
