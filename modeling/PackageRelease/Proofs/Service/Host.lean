/-
PackageRelease/Proofs/Service/Host.lean

How a good host is written.

    metadata.internal   127.0.0.1   %6detadata.internal   [fe80::1]

A name is read through two layers: what is escaped in it is taken for what it
stands for, and the bytes that come out are read leniently.  A character that
divides an address passes through both of them as it is (`mem_unescape`,
`mem_decodeLossy_of_ascii`), and then the name is refused.  In brackets there
are digits, colons and dots only (`mem_of_isLong`).  So a good host holds no
character at which an address would be cut, and a colon stands in brackets
only (`written_of_parse?`).
-/
import PackageRelease.Proofs.Text.Utf8
import PackageRelease.Service.Host

namespace PackageRelease

theorem mem_segments (separator : Char) {c : Char} {text : List Char} (mem : c ∈ text) :
    c = separator ∨ ∃ segment ∈ segments separator text, c ∈ segment := by
  induction text with
  | nil => cases mem
  | cons a rest ih =>
    unfold segments
    split
    · rename_i divides
      rcases List.mem_cons.1 mem with rfl | mem
      · exact .inl divides
      rcases ih mem with divides' | ⟨segment, among, inside⟩
      · exact .inl divides'
      · exact .inr ⟨segment, List.mem_cons_of_mem _ among, inside⟩
    · obtain ⟨first, more, parts⟩ := List.exists_cons_of_ne_nil (segments_ne_nil separator rest)
      rw [parts] at ih ⊢
      rcases List.mem_cons.1 mem with rfl | mem
      · exact .inr ⟨_, List.mem_cons_self, List.mem_cons_self⟩
      rcases ih mem with divides | ⟨segment, among, inside⟩
      · exact .inl divides
      -- the first segment of the rest has grown, the others are as they were
      rcases List.mem_cons.1 among with rfl | among
      · exact .inr ⟨_, List.mem_cons_self, List.mem_cons_of_mem a inside⟩
      · exact .inr ⟨segment, List.mem_cons_of_mem _ among, inside⟩

namespace Host

variable {base : Nat} {c d : Char} {b : UInt8} {text : List Char}

/-! ### Digits -/

theorem isSome_digit?_sixteen (h : (digit? 10 c).isSome) : (digit? 16 c).isSome := by
  simp only [digit?] at h ⊢
  split_ifs at h ⊢
  all_goals simp_all
  all_goals omega

theorem isSome_digit?_of_foldlM {start value : Nat}
    (h : text.foldlM (fun n c => (digit? base c).map (n * base + ·)) start = some value) :
    ∀ c ∈ text, (digit? base c).isSome := by
  induction text generalizing start with
  | nil => simp
  | cons c rest ih =>
    rw [List.foldlM_cons, Option.bind_eq_bind, Option.bind_eq_some_iff] at h
    obtain ⟨next, first, more⟩ := h
    rw [Option.map_eq_some_iff] at first
    obtain ⟨digit, found, -⟩ := first
    exact List.forall_mem_cons.2 ⟨by rw [found]; rfl, ih more⟩

/-- A number is written in digits. -/
theorem isSome_digit?_of_digits? (h : (digits? base text).isSome) :
    ∀ c ∈ text, (digit? base c).isSome := by
  obtain ⟨value, read⟩ := Option.isSome_iff_exists.1 h
  exact isSome_digit?_of_foldlM read

/-! ### Longer numbers -/

/-- The character stands in longer numbers. -/
def IsLongChar (c : Char) : Prop := (digit? 16 c).isSome ∨ c = ':' ∨ c = '.'

instance (c : Char) : Decidable (IsLongChar c) := inferInstanceAs (Decidable (_ ∨ _))

theorem isLongChar_of_isDotted (h : isDotted text) : ∀ c ∈ text, IsLongChar c := by
  intro c mem
  simp only [isDotted, Bool.and_eq_true, List.all_eq_true] at h
  rcases mem_segments '.' mem with rfl | ⟨part, among, inside⟩
  · exact .inr (.inr rfl)
  · have small := h.2 part among
    have digits : (digits? 10 part).isSome := by
      split at small
      · cases small
      · cases small
      · obtain ⟨value, read, -⟩ := Option.any_eq_true _ _ |>.1 small
        exact Option.isSome_iff_exists.2 ⟨value, read⟩
    exact .inl (isSome_digit?_sixteen (isSome_digit?_of_digits? digits c inside))

theorem isLongChar_of_groups? {pieces : List (List Char)} (h : (groups? pieces).isSome) :
    ∀ piece ∈ pieces, ∀ c ∈ piece, IsLongChar c := by
  fun_induction groups? pieces with
  | case1 => simp
  | case2 piece dotted => simpa using isLongChar_of_isDotted dotted
  | case3 piece plain digits =>
    simpa using fun c mem => .inl (isSome_digit?_of_digits? digits.2.2 c mem)
  | case4 => cases h
  | case5 piece rest single digits ih =>
    rw [Option.isSome_map] at h
    exact List.forall_mem_cons.2
      ⟨fun c mem => .inl (isSome_digit?_of_digits? digits.2.2 c mem), ih h⟩
  | case6 => cases h

theorem isLongChar_of_pieces (h : (groups? (pieces text)).isSome) : ∀ c ∈ text, IsLongChar c := by
  intro c mem
  unfold pieces at h
  rw [if_neg (by simpa using List.ne_nil_of_mem mem)] at h
  rcases mem_segments ':' mem with rfl | ⟨piece, among, inside⟩
  · exact .inr (.inl rfl)
  · exact isLongChar_of_groups? h piece among c inside

theorem eq_of_aroundGap? {before after : List Char} (h : aroundGap? text = some (before, after)) :
    text = before ++ ':' :: ':' :: after := by
  fun_induction aroundGap? text generalizing before with
  | case1 rest =>
    cases h
    rfl
  | case2 => cases h
  | case3 c rest _ ih =>
    simp only [Option.map_eq_some_iff, Prod.exists, Prod.mk.injEq] at h
    obtain ⟨before, after, found, rfl, rfl⟩ := h
    rw [ih found, List.cons_append]

theorem isLongChar_of_isLong (h : isLong text) : ∀ c ∈ text, IsLongChar c := by
  unfold isLong at h
  split at h
  · -- no gap: the pieces are those of the whole text
    exact isLongChar_of_pieces (Option.isSome_iff_exists.2 ⟨8, by simpa using h⟩)
  · rename_i before after around
    split at h
    · rename_i a b left right
      have inBefore := isLongChar_of_pieces (Option.isSome_iff_exists.2 ⟨a, left⟩)
      have inAfter := isLongChar_of_pieces (Option.isSome_iff_exists.2 ⟨b, right⟩)
      rw [eq_of_aroundGap? around]
      simp only [List.forall_mem_append, List.forall_mem_cons]
      exact ⟨inBefore, .inr (.inl rfl), .inr (.inl rfl), inAfter⟩
    · cases h

/-! ### Names -/

/-- A byte that has no part in an escape is kept. -/
theorem mem_unescape {bytes : List UInt8} (sign : b ≠ 37)
    (digitless : digit? 16 (Char.ofNat b.toNat) = none) (mem : b ∈ bytes) : b ∈ unescape bytes := by
  fun_induction unescape bytes with
  | case1 => exact mem
  | case2 => exact mem
  | case3 => exact mem
  | case4 b' c' rest low high second first ih =>
    -- an escape: its two digits are no `b`
    refine List.mem_cons_of_mem _ (ih ?_)
    rcases List.mem_cons.1 mem with rfl | mem
    · exact absurd rfl sign
    rcases List.mem_cons.1 mem with rfl | mem
    · rw [digitless] at first
      cases first
    rcases List.mem_cons.1 mem with rfl | mem
    · rw [digitless] at second
      cases second
    · exact mem
  | case5 a b' c' rest low high second first plain ih =>
    rcases List.mem_cons.1 mem with rfl | mem
    · exact List.mem_cons_self
    · exact List.mem_cons_of_mem _ (ih mem)
  | case6 a b' c' rest short ih =>
    rcases List.mem_cons.1 mem with rfl | mem
    · exact List.mem_cons_self
    · exact List.mem_cons_of_mem _ (ih mem)

/-- The character is its own byte, it has no part in an escape, and it is no capital. -/
def IsLiteral (c : Char) : Prop :=
  c.toNat < 0x80 ∧ c ≠ '%' ∧ digit? 16 c = none ∧ c.toLower = c

instance (c : Char) : Decidable (IsLiteral c) := inferInstanceAs (Decidable (_ ∧ _))

/-- What a name is read as. -/
def reading (text : List Char) : List Char :=
  (Utf8.decodeLossy (unescape (text.flatMap Utf8.encodeChar))).toList.map Char.toLower

/-- A literal character of a text is read as it is. -/
theorem mem_reading (literal : IsLiteral c) (mem : c ∈ text) : c ∈ reading text := by
  obtain ⟨ascii, sign, digitless, lower⟩ := literal
  have only : Utf8.encodeChar c = [c.toNat.toUInt8] := by
    rw [Utf8.encodeChar, if_pos ascii]
  have value : c.toNat.toUInt8.toNat = c.toNat :=
    Utf8.toNat_toUInt8 (Nat.lt_trans ascii (by decide))
  have back : Char.ofNat c.toNat.toUInt8.toNat = c := by rw [value, Char.ofNat_toNat]
  have byte : c.toNat.toUInt8 ∈ text.flatMap Utf8.encodeChar :=
    List.mem_flatMap.2 ⟨c, mem, only ▸ List.mem_singleton_self _⟩
  have kept : c.toNat.toUInt8 ∈ unescape (text.flatMap Utf8.encodeChar) := by
    refine mem_unescape (fun same => sign ?_) (back.symm ▸ digitless) byte
    rw [← back, same]
    rfl
  have read := Utf8.mem_decodeLossy_of_ascii kept (value.symm ▸ ascii)
  rw [back] at read
  exact List.mem_map.2 ⟨c, read, lower⟩

theorem parse?_of_forbidden (name : text.head? ≠ some '[') (literal : IsLiteral c)
    (forbidden : isForbidden c) (mem : c ∈ text) : parse? text = none := by
  have found : (reading text).any isForbidden :=
    List.any_eq_true.2 ⟨c, mem_reading literal mem, forbidden⟩
  unfold parse?
  split
  · exact absurd rfl name
  · exact if_pos (.inr found)

/-! ### Good hosts -/

/-- The characters that cut an address, or do not count in it. -/
def cuts : List Char := ['/', '\\', '?', '#', '@', '\t', '\n', '\r']

/-- A text that holds no character that cuts an address, and a colon in brackets only. -/
inductive Written : List Char → Prop
  | name {text : List Char} (filled : text ≠ [])
      (uncut : ∀ c ∈ text, c ∉ cuts ∧ c ∉ [':', '[', ']']) : Written text
  | long {number : List Char} (uncut : ∀ c ∈ number, c ∉ cuts ∧ c ∉ ['[', ']']) :
      Written ('[' :: (number ++ [']']))

theorem Written.ne_nil (written : Written text) : text ≠ [] := by
  cases written with
  | name filled uncut => exact filled
  | long uncut => exact List.cons_ne_nil _ _

theorem Written.not_mem_cuts (written : Written text) : ∀ c ∈ text, c ∉ cuts := by
  cases written with
  | name filled uncut => exact fun c mem => (uncut c mem).1
  | long uncut =>
    simp only [List.forall_mem_cons, List.forall_mem_append]
    exact ⟨by decide, fun c mem => (uncut c mem).1, by decide, by simp⟩

-- decided along the list: there are too many characters to go through
theorem isLiteral_and_isForbidden :
    ∀ c ∈ cuts ++ [':', '[', ']'], IsLiteral c ∧ isForbidden c := by
  have all : (cuts ++ [':', '[', ']']).all fun c => IsLiteral c ∧ isForbidden c := by decide
  exact fun c mem => of_decide_eq_true (List.all_eq_true.1 all c mem)

theorem not_isLongChar : ∀ c ∈ cuts ++ ['[', ']'], ¬ IsLongChar c := by
  have all : (cuts ++ ['[', ']']).all fun c => ¬ IsLongChar c := by decide
  exact fun c mem => of_decide_eq_true (List.all_eq_true.1 all c mem)

theorem not_mem_cuts_of_digits? (h : (digits? 10 text).isSome) : ∀ c ∈ text, c ∉ cuts := by
  intro c mem among
  have digit := isSome_digit?_sixteen (isSome_digit?_of_digits? h c mem)
  exact not_isLongChar c (List.mem_append_left _ among) (.inl digit)

/-- A good host is not cut anywhere. -/
theorem written_of_parse? (good : (parse? text).isSome) : Written text := by
  by_cases bracket : text.head? = some '['
  · obtain ⟨rest, rfl⟩ := List.head?_eq_some_iff.1 bracket
    obtain ⟨closed, long⟩ : rest.getLast? = some ']' ∧ isLong rest.dropLast := by
      by_contra bad
      simp [parse?, bad] at good
    -- what stands between the brackets is a longer number, and that has no brackets
    obtain ⟨number, rfl⟩ := List.getLast?_eq_some_iff.1 closed
    rw [List.dropLast_concat] at long
    refine .long fun c mem => ?_
    have stands := isLongChar_of_isLong long c mem
    rw [← not_or, ← List.mem_append]
    exact fun among => not_isLongChar c among stands
  · refine .name ?_ fun c mem => ?_
    · rintro rfl
      exact absurd good (by decide)
    · -- such a character would be read as it is, and no name has it
      rw [← not_or, ← List.mem_append]
      intro among
      obtain ⟨literal, forbidden⟩ := isLiteral_and_isForbidden c among
      rw [parse?_of_forbidden bracket literal forbidden mem] at good
      cases good

end Host

end PackageRelease
