/-
PackageRelease/Proofs/Text/Pieces.lean

The pieces of a text around the occurrences of a needle.

    text  =  p₀ ++ needle ++ p₁ ++ needle ++ ... ++ pₙ

The occurrences between the pieces are the leftmost ones that do not overlap:
the needle first occurs in `pᵢ ++ needle` behind `pᵢ`, and in `pₙ` it does not
occur (`Splits`).  That leaves one way only for a text to fall into pieces, even
if the needle overlaps itself (`Splits.unique`).  What comes of replacing the
needle by a mark is these pieces with the mark between them
(`exists_splits_replaceAll`).
-/
import PackageRelease.Proofs.Text.Occurrence
import PackageRelease.Proofs.Text.Replacement

namespace PackageRelease

variable {needle mark text rest : List Char} {n : Nat}

/-! ### Pieces -/

/-- The pieces that a text falls into. -/
structure Pieces where
  /-- Each of these has an occurrence behind it. -/
  before : List (List Char)
  last : List Char
deriving DecidableEq

/-- The pieces with a word between them. -/
def Pieces.join (word : List Char) (pieces : Pieces) : List Char :=
  pieces.before.flatMap (· ++ word) ++ pieces.last

/-- The pieces are those of a text around the leftmost occurrences of a needle. -/
structure Splits (needle text : List Char) (pieces : Pieces) : Prop where
  joined : pieces.join needle = text
  first : ∀ piece ∈ pieces.before, firstOccurrence? needle (piece ++ needle) = some piece.length
  absent : firstOccurrence? needle pieces.last = none

theorem Pieces.join_cons (word piece : List Char) (before : List (List Char)) (last : List Char) :
    join word ⟨piece :: before, last⟩ = piece ++ word ++ join word ⟨before, last⟩ := by
  simp [join]

/-! ### One way to fall into pieces -/

/-- Where a needle first occurs, it first occurs whatever follows. -/
theorem firstOccurrence?_append (first : firstOccurrence? needle text = some n)
    (rest : List Char) : firstOccurrence? needle (text ++ rest) = some n := by
  induction text generalizing n with
  | nil =>
    have empty : needle = [] := by
      have begins := (firstOccurrence?_eq_some_iff.1 first).1
      simpa using begins
    have start : n = 0 := by
      simpa [empty, firstOccurrence?, eq_comm] using first
    rw [empty, start, firstOccurrence?_start List.nil_prefix]
  | cons c text ih =>
    by_cases begins : needle <+: c :: text
    · rw [firstOccurrence?_start begins] at first
      rw [firstOccurrence?_start (begins.trans (List.prefix_append _ _)), first]
    · rw [firstOccurrence?_cons begins] at first
      obtain ⟨k, later, rfl⟩ := Option.map_eq_some_iff.1 first
      have fits : needle.length ≤ (c :: text).length := by
        have within := (firstOccurrence?_eq_some_iff.1 later).1.length_le
        rw [List.length_drop] at within
        rw [List.length_cons]
        omega
      have apart : ¬ needle <+: c :: (text ++ rest) := fun starts =>
        begins (List.prefix_of_prefix_length_le starts (List.prefix_append (c :: text) rest) fits)
      rw [List.cons_append, firstOccurrence?_cons apart, ih later]
      rfl

namespace Splits

variable {before : List (List Char)} {piece last : List Char} {pieces other : Pieces}

/-- The first occurrence in the text is behind the first piece. -/
theorem firstOccurrence?_eq (splits : Splits needle text ⟨piece :: before, last⟩) :
    firstOccurrence? needle text = some piece.length := by
  rw [← splits.joined, Pieces.join_cons]
  exact firstOccurrence?_append (splits.first piece List.mem_cons_self) _

/-- What is behind the first occurrence falls into the other pieces. -/
theorem tail (splits : Splits needle text ⟨piece :: before, last⟩) :
    Splits needle (Pieces.join needle ⟨before, last⟩) ⟨before, last⟩ where
  joined := rfl
  first other mem := splits.first other (List.mem_cons_of_mem piece mem)
  absent := splits.absent

theorem eq_last (splits : Splits needle text ⟨[], last⟩) : text = last := by
  rw [← splits.joined]
  simp [Pieces.join]

theorem unique (splits : Splits needle text pieces) (splits' : Splits needle text other) :
    other = pieces := by
  obtain ⟨before, last⟩ := pieces
  obtain ⟨before', last'⟩ := other
  induction before generalizing text before' with
  | nil =>
    cases before' with
    | nil => rw [← splits.eq_last, ← splits'.eq_last]
    | cons piece' before' =>
      have absent := splits.absent
      rw [← splits.eq_last, splits'.firstOccurrence?_eq] at absent
      cases absent
  | cons piece before ih =>
    cases before' with
    | nil =>
      have absent := splits'.absent
      rw [← splits'.eq_last, splits.firstOccurrence?_eq] at absent
      cases absent
    | cons piece' before' =>
      have length : piece'.length = piece.length :=
        Option.some.inj (splits'.firstOccurrence?_eq.symm.trans splits.firstOccurrence?_eq)
      have whole := splits'.joined.trans splits.joined.symm
      rw [Pieces.join_cons, Pieces.join_cons, List.append_assoc, List.append_assoc] at whole
      obtain ⟨rfl, left⟩ := List.append_inj whole length
      have behind := splits'.tail
      rw [List.append_cancel_left left] at behind
      obtain ⟨rfl, rfl⟩ := Pieces.mk.inj (ih splits.tail before' behind)
      rfl

end Splits

/-! ### The pieces around what is replaced -/

/-- No needle ends before the one behind a piece does, so that is the first one. -/
theorem firstOccurrence?_piece {before : List Char}
    (first : ¬ needle <:+: before ++ needle.dropLast) :
    firstOccurrence? needle (before ++ needle) = some before.length := by
  refine firstOccurrence?_eq_some_iff.2 ⟨by rw [List.drop_left], fun m earlier begins => first ?_⟩
  rw [List.drop_append_of_le_length earlier.le] at begins
  have cut : before.drop m ++ needle.dropLast <+: before.drop m ++ needle :=
    (List.prefix_append_right_inj _).2 (List.dropLast_prefix needle)
  have room : needle.length ≤ (before.drop m ++ needle.dropLast).length := by
    rw [List.length_append, List.length_drop, List.length_dropLast]
    omega
  have within : needle <+: before.drop m ++ needle.dropLast :=
    List.prefix_of_prefix_length_le begins cut room
  rw [← List.drop_append_of_le_length earlier.le] at within
  exact within.isInfix.trans (List.drop_suffix _ _).isInfix

theorem Replaced.exists_splits {result : List Char} (replaced : Replaced needle mark text result) :
    ∃ pieces, Splits needle text pieces ∧ result = pieces.join mark := by
  induction replaced with
  | @rest text absent =>
    refine ⟨⟨[], text⟩, ⟨by simp [Pieces.join], ?_, firstOccurrence?_eq_none_iff.2 absent⟩,
      by simp [Pieces.join]⟩
    exact List.forall_mem_nil _
  | @piece before text result first replaced ih =>
    obtain ⟨⟨pieces, last⟩, splits, rfl⟩ := ih
    refine ⟨⟨before :: pieces, last⟩, ⟨?_, ?_, splits.absent⟩, by rw [Pieces.join_cons]⟩
    · rw [Pieces.join_cons, splits.joined]
    · exact List.forall_mem_cons.2 ⟨firstOccurrence?_piece first, splits.first⟩

/-- **Replacing a needle puts the mark between the pieces around its leftmost occurrences.** -/
theorem exists_splits_replaceAll (nonempty : needle ≠ []) (mark text : List Char) :
    ∃ pieces, Splits needle text pieces ∧ replaceAll needle mark text = pieces.join mark :=
  (replaced_replaceAll mark nonempty text).exists_splits

end PackageRelease
