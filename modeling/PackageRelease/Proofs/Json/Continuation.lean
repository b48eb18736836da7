/-
PackageRelease/Proofs/Json/Continuation.lean

What is read of a text is read of it, too, if more text is behind it.

    text         ->  value, rest
    text ++ more ->  value, rest ++ more

A reader stops where it has seen an end: behind a quote, a colon, a comma or a
bracket.  Only a number ends where something else comes, and so a value that is
passed over has to leave something (`skipWithin_extend`).  A record is inside
of brackets, where this is so, and therefore a text that is a record is none if
there is anything but blanks behind it (`Shape.readAll_append`).
-/
import Mathlib.Data.List.TakeWhile
import PackageRelease.Proofs.Json.Record
import PackageRelease.Proofs.Json.Spelling

namespace PackageRelease

namespace Json

variable {text rest : List Char} {c : Char} (more : List Char)

theorem dropSpaces_extend (starts : dropSpaces text = c :: rest) :
    dropSpaces (text ++ more) = c :: (rest ++ more) := by
  have nonempty : (dropSpaces text).isEmpty = false := by rw [starts]; rfl
  have starts' : dropSpaces (text ++ more) = dropSpaces text ++ more := by
    rw [dropSpaces, List.dropWhile_append, ← dropSpaces, nonempty]
    rfl
  rw [starts', starts, List.cons_append]

/-! ### Strings -/

theorem readHex_extend {n : Nat} (read : readHex text = .ok (n, rest)) :
    readHex (text ++ more) = .ok (n, rest ++ more) := by
  unfold readHex at read
  split at read
  · next first second third fourth after =>
    split at read
    · next value =>
      cases read
      simp only [List.cons_append, readHex, value]
    · cases read
  · split at read <;> cases read

theorem expectInEscape_extend {wanted : Char} (read : expectInEscape wanted text = .ok rest) :
    expectInEscape wanted (text ++ more) = .ok (rest ++ more) := by
  cases text with
  | nil => cases read
  | cons d text =>
    rw [expectInEscape] at read
    split at read
    · next same =>
      cases read
      rw [List.cons_append, expectInEscape, if_pos same]
    · cases read

theorem readNumbered_extend (read : readNumbered text = .ok (c, rest)) :
    readNumbered (text ++ more) = .ok (c, rest ++ more) := by
  obtain ⟨⟨n, text₁⟩, first, read⟩ := bind_eq_ok_iff.1 read
  rw [readNumbered, readHex_extend more first, ok_bind]
  dsimp only at read ⊢
  split at read
  · cases read
  next whole =>
  rw [if_neg whole]
  split at read
  · next narrow =>
    obtain ⟨rfl, rfl⟩ := Prod.mk.inj (Except.ok.inj read)
    rw [if_pos narrow]
    rfl
  next wide =>
  obtain ⟨text₂, backslash, read⟩ := bind_eq_ok_iff.1 read
  obtain ⟨text₃, letter, read⟩ := bind_eq_ok_iff.1 read
  obtain ⟨⟨m, text₄⟩, second, read⟩ := bind_eq_ok_iff.1 read
  rw [if_neg wide, expectInEscape_extend more backslash, ok_bind,
    expectInEscape_extend more letter, ok_bind, readHex_extend more second, ok_bind]
  dsimp only at read ⊢
  split at read
  · next low =>
    obtain ⟨rfl, rfl⟩ := Prod.mk.inj (Except.ok.inj read)
    rw [if_pos low]
    rfl
  · cases read

theorem readEscape_extend (read : readEscape text = .ok (c, rest)) :
    readEscape (text ++ more) = .ok (c, rest ++ more) := by
  cases text with
  | nil => cases read
  | cons d text =>
    rw [readEscape] at read
    rw [List.cons_append, readEscape]
    split at read
    · next numbered => rw [if_pos numbered, readNumbered_extend more read]
    · next lettered =>
      rw [if_neg lettered]
      cases meant : escapeLetter? d with
      | none => rw [meant] at read; cases read
      | some _ => rw [meant] at read; cases read; rfl

theorem skipEscape_extend (passed : skipEscape text = .ok rest) :
    skipEscape (text ++ more) = .ok (rest ++ more) := by
  cases text with
  | nil => cases passed
  | cons d text =>
    rw [skipEscape] at passed
    rw [List.cons_append, skipEscape]
    split at passed
    · next numbered =>
      rw [if_pos numbered]
      rcases read : readHex text with fault | ⟨n, left⟩
      · rw [read] at passed; cases passed
      · rw [read] at passed
        cases passed
        rw [readHex_extend more read]
        rfl
    · next lettered =>
      rw [if_neg lettered]
      split at passed
      · next known => cases passed; rw [if_pos known]
      · cases passed

theorem readChars_extend {before chars : List Char}
    (read : readChars before text = .ok (chars, rest)) :
    readChars before (text ++ more) = .ok (chars, rest ++ more) := by
  fun_induction readChars before text with
  | case1 => cases read
  | case2 =>
    cases read
    rw [List.cons_append, readChars_cons, if_pos rfl]
  | case3 => cases read
  | case4 before text meant left escape shorter unquoted ih =>
    rw [List.cons_append, readChars_cons, if_neg unquoted, if_pos rfl,
      readEscape_extend more escape, ok_bind, ih read]
  | case5 => cases read
  | case6 before d text unquoted unescaped printed ih =>
    rw [List.cons_append, readChars_cons, if_neg unquoted, if_neg unescaped, if_neg printed,
      ih read]

theorem readString_extend {s : String} (read : readString text = .ok (s, rest)) :
    readString (text ++ more) = .ok (s, rest ++ more) := by
  obtain ⟨⟨chars, left⟩, chars_read, read⟩ := bind_eq_ok_iff.1 read
  cases read
  rw [readString, readChars_extend more chars_read, ok_bind]
  rfl

theorem skipString_extend (passed : skipString text = .ok rest) :
    skipString (text ++ more) = .ok (rest ++ more) := by
  fun_induction skipString text with
  | case1 => cases passed
  | case2 =>
    cases passed
    rw [List.cons_append, skipString_cons, if_pos rfl]
  | case3 => cases passed
  | case4 text left escape shorter unquoted ih =>
    rw [List.cons_append, skipString_cons, if_neg unquoted, if_pos rfl,
      skipEscape_extend more escape, ok_bind, ih passed]
  | case5 => cases passed
  | case6 d text unquoted unescaped printed ih =>
    rw [List.cons_append, skipString_cons, if_neg unquoted, if_neg unescaped, if_neg printed,
      ih passed]

/-! ### Numbers -/

namespace Numeral

variable {atEnd : Cause}

theorem digits_extend {found : List Char} (read : digits text = (found, rest))
    (nonempty : rest ≠ []) : digits (text ++ more) = (found, rest ++ more) := by
  have found_eq : text.takeWhile Char.isDigit = found := congrArg Prod.fst read
  have rest_eq : text.dropWhile Char.isDigit = rest := congrArg Prod.snd read
  have are : ∀ d ∈ found, d.isDigit := found_eq ▸ fun d mem => List.mem_takeWhile_imp mem
  have text_eq : text = found ++ rest := by
    rw [← found_eq, ← rest_eq, List.takeWhile_append_dropWhile]
  have stops : NoDigit (rest ++ more) := by
    have stop := List.head?_dropWhile_not Char.isDigit text
    obtain ⟨c, left, rfl⟩ := List.exists_cons_of_ne_nil nonempty
    rw [rest_eq] at stop
    intro d mem
    obtain rfl : c = d := Option.some.inj mem
    simpa using stop
  rw [text_eq, List.append_assoc, digits_append are stops]

/-- Digits are read if there is one. -/
theorem wanted_digits_eq_ok_iff {found : List Char} :
    (match digits text with
      | ([], rest) => Except.error (wantsDigit atEnd rest)
      | found => .ok found) = .ok (found, rest) ↔ digits text = (found, rest) ∧ found ≠ [] := by
  rcases digits text with ⟨- | ⟨d, digits⟩, left⟩
  · simp only [reduceCtorEq, Prod.mk.injEq, false_iff]
    rintro ⟨⟨rfl, -⟩, nonempty⟩
    exact nonempty rfl
  · simp only [Except.ok.injEq, iff_self_and]
    rintro ⟨⟩
    exact List.cons_ne_nil _ _

theorem readWhole_cons_eq_ok_iff {whole : List Char} (nonzero : c ≠ '0') :
    readWhole atEnd (c :: text) = .ok (whole, rest) ↔
      digits (c :: text) = (whole, rest) ∧ whole ≠ [] := by
  rw [readWhole]
  · exact wanted_digits_eq_ok_iff
  · exact fun after eq => nonzero (List.cons.inj eq).1

theorem readFraction_point_eq_ok_iff {fraction : List Char} :
    readFraction atEnd ('.' :: text) = .ok (fraction, rest) ↔
      digits text = (fraction, rest) ∧ fraction ≠ [] :=
  wanted_digits_eq_ok_iff

theorem readWhole_extend {whole : List Char} (read : readWhole atEnd text = .ok (whole, rest))
    (nonempty : rest ≠ []) : readWhole atEnd (text ++ more) = .ok (whole, rest ++ more) := by
  cases text with
  | nil => cases read
  | cons c text =>
    by_cases zero : c = '0'
    · subst zero
      rw [readWhole] at read
      split at read
      · cases read
      · next stops =>
        cases read
        obtain ⟨d, left, rfl⟩ := List.exists_cons_of_ne_nil nonempty
        rw [List.cons_append, readWhole]
        exact if_neg stops
    · obtain ⟨read, some_digit⟩ := (readWhole_cons_eq_ok_iff zero).1 read
      rw [List.cons_append, readWhole_cons_eq_ok_iff zero, ← List.cons_append]
      exact ⟨digits_extend more read nonempty, some_digit⟩

theorem readFraction_extend {fraction : List Char}
    (read : readFraction atEnd text = .ok (fraction, rest)) (nonempty : rest ≠ []) :
    readFraction atEnd (text ++ more) = .ok (fraction, rest ++ more) := by
  cases text with
  | nil =>
    cases read
    exact absurd rfl nonempty
  | cons c text =>
    by_cases point : c = '.'
    · subst point
      obtain ⟨read, some_digit⟩ := readFraction_point_eq_ok_iff.1 read
      rw [List.cons_append, readFraction_point_eq_ok_iff]
      exact ⟨digits_extend more read nonempty, some_digit⟩
    · have absent (text : List Char) : readFraction atEnd (c :: text) = .ok ([], c :: text) := by
        rw [readFraction]
        intro after eq
        exact point (List.cons.inj eq).1
      rw [absent] at read
      cases read
      rw [List.cons_append, absent]

theorem exponentSign_extend (nonempty : text ≠ []) :
    exponentSign (text ++ more) = ((exponentSign text).1, (exponentSign text).2 ++ more) := by
  obtain ⟨c, text, rfl⟩ := List.exists_cons_of_ne_nil nonempty
  by_cases minus : c = '-'
  · subst minus
    rfl
  by_cases plus : c = '+'
  · subst plus
    rfl
  have absent (text : List Char) : exponentSign (c :: text) = (false, c :: text) := by
    rw [exponentSign]
    · exact fun after eq => minus (List.cons.inj eq).1
    · exact fun after eq => plus (List.cons.inj eq).1
  rw [List.cons_append, absent, absent, List.cons_append]

theorem readExponent_extend {exponent : Option (Bool × List Char)}
    (read : readExponent atEnd text = .ok (exponent, rest)) (nonempty : rest ≠ []) :
    readExponent atEnd (text ++ more) = .ok (exponent, rest ++ more) := by
  cases text with
  | nil =>
    cases read
    exact absurd rfl nonempty
  | cons c text =>
    rw [readExponent] at read
    rw [List.cons_append, readExponent]
    split at read
    · next letter =>
      rw [if_pos letter]
      rcases found : digits (exponentSign text).2 with ⟨- | ⟨d, digits⟩, left⟩
      · rw [found] at read
        cases read
      · rw [found] at read
        cases read
        have behind : text ≠ [] := by
          rintro rfl
          cases found
        rw [exponentSign_extend more behind, digits_extend more found nonempty]
    · next other =>
      cases read
      rw [if_neg other]
      rfl

/-- A number that leaves something is read just the same. -/
theorem read_extend {numeral : Numeral} (read : Numeral.read atEnd text = .ok (numeral, rest))
    (nonempty : rest ≠ []) : Numeral.read atEnd (text ++ more) = .ok (numeral, rest ++ more) := by
  rw [Numeral.read] at read
  obtain ⟨⟨whole, text₁⟩, whole_read, read⟩ := bind_eq_ok_iff.1 read
  obtain ⟨⟨fraction, text₂⟩, fraction_read, read⟩ := bind_eq_ok_iff.1 read
  obtain ⟨⟨exponent, text₃⟩, exponent_read, read⟩ := bind_eq_ok_iff.1 read
  cases read
  -- no part of the number reaches the end of the text, since the last one does not
  have left₂ : text₂ ≠ [] := List.ne_nil_of_length_pos
    ((List.length_pos_of_ne_nil nonempty).trans_le (readExponent_length_le exponent_read))
  have left₁ : text₁ ≠ [] := List.ne_nil_of_length_pos
    ((List.length_pos_of_ne_nil left₂).trans_le (readFraction_length_le fraction_read))
  rcases text with - | ⟨c, text⟩
  · cases whole_read
  have signed : (if (c :: text ++ more).head? = some '-' then (c :: text ++ more).drop 1
        else c :: text ++ more)
      = (if (c :: text).head? = some '-' then (c :: text).drop 1 else c :: text) ++ more := by
    by_cases minus : c = '-'
    · simp [minus]
    · simp [minus]
  rw [Numeral.read]
  simp only
  rw [signed, readWhole_extend more whole_read left₁, ok_bind]
  simp only
  rw [readFraction_extend more fraction_read left₂, ok_bind]
  simp only
  rw [readExponent_extend more exponent_read nonempty, ok_bind]
  rfl

end Numeral

/-! ### Values that are passed over -/

theorem skipWord_extend {word : List Char} (passed : skipWord word text = .ok rest) :
    skipWord word (text ++ more) = .ok (rest ++ more) := by
  fun_induction skipWord word text with
  | case1 text =>
    cases passed
    rw [skipWord]
  | case2 => cases passed
  | case3 w word text ih => rw [List.cons_append, skipWord, if_pos rfl, ih passed]
  | case4 => cases passed

theorem skipScalar_extend (passed : skipScalar text = .ok rest) (nonempty : rest ≠ []) :
    skipScalar (text ++ more) = .ok (rest ++ more) := by
  cases text with
  | nil => cases passed
  | cons d text =>
    rw [skipScalar] at passed
    rw [List.cons_append, skipScalar]
    split at passed
    · next is => rw [if_pos is, skipWord_extend more passed]
    next isnt =>
    rw [if_neg isnt]
    split at passed
    · next is => rw [if_pos is, skipWord_extend more passed]
    next isnt =>
    rw [if_neg isnt]
    split at passed
    · next is => rw [if_pos is, skipWord_extend more passed]
    next isnt =>
    rw [if_neg isnt]
    split at passed
    · next is => rw [if_pos is, skipString_extend more passed]
    next isnt =>
    rw [if_neg isnt]
    split at passed
    · next is =>
      obtain ⟨⟨numeral, left⟩, read, passed⟩ := bind_eq_ok_iff.1 passed
      cases passed
      rw [if_pos is, ← List.cons_append, Numeral.read_extend more read nonempty, ok_bind]
      rfl
    · cases passed

theorem skipColon_eq_ok_iff : skipColon text = .ok rest ↔ dropSpaces text = ':' :: rest := by
  rw [skipColon]
  split
  · next ended => simp [ended]
  · next d left starts =>
    rw [starts]
    by_cases colon : d = ':'
    · simp [colon]
    · simp [colon]

theorem skipColon_extend (passed : skipColon text = .ok rest) :
    skipColon (text ++ more) = .ok (rest ++ more) :=
  skipColon_eq_ok_iff.2 (dropSpaces_extend more (skipColon_eq_ok_iff.1 passed))

theorem skipKey_extend {bracket : Bracket} (passed : skipKey bracket text = .ok rest) :
    skipKey bracket (text ++ more) = .ok (rest ++ more) := by
  cases bracket with
  | list =>
    cases passed
    rfl
  | object =>
    rw [skipKey] at passed
    split at passed
    · cases passed
    · next d left starts =>
      split at passed
      · next quote =>
        obtain ⟨behind, key, colon⟩ := bind_eq_ok_iff.1 passed
        simp only [skipKey, dropSpaces_extend more starts, if_pos quote,
          skipString_extend more key, ok_bind, skipColon_extend more colon]
      · cases passed

/-- A value that is passed over, and leaves something, is passed over just the same. -/
theorem skipWithin_extend {stage : Stage} {brackets : List Bracket}
    (passed : skipWithin stage brackets text = .ok rest) (nonempty : rest ≠ []) :
    skipWithin stage brackets (text ++ more) = .ok (rest ++ more) := by
  fun_induction skipWithin stage brackets text with
  | case1 | case3 | case6 | case8 | case11 | case12 | case15 => cases passed
  | case2 text brackets d left starts _ bracket opens ih =>
    rw [skipWithin_value (dropSpaces_extend more starts), opens]
    exact ih passed
  | case4 text brackets d left starts _ unopened behind scalar _ ih =>
    -- with nothing behind the scalar nothing would be left in the end
    have nonempty_behind : behind ≠ [] := by
      rintro rfl
      exact nonempty (List.eq_nil_of_length_eq_zero (Nat.le_zero.1 (skipWithin_length_le passed)))
    have scalar := skipScalar_extend more scalar nonempty_behind
    rw [List.cons_append] at scalar
    rw [skipWithin_value (dropSpaces_extend more starts), unopened]
    simp only [scalar, ok_bind]
    exact ih passed
  | case5 =>
    cases passed
    rw [skipWithin]
  | case7 text bracket outer left starts _ ih =>
    rw [skipWithin_opened (dropSpaces_extend more starts), if_pos rfl]
    exact ih passed
  | case9 text bracket outer d left starts _ other behind key _ ih =>
    have key := skipKey_extend more key
    rw [List.cons_append] at key
    rw [skipWithin_opened (dropSpaces_extend more starts), if_neg other, key, ok_bind]
    exact ih passed
  | case10 =>
    cases passed
    rw [skipWithin]
  | case13 text bracket outer left behind key _ starts _ ih =>
    rw [skipWithin_ended (dropSpaces_extend more starts), if_pos rfl, skipKey_extend more key,
      ok_bind]
    exact ih passed
  | case14 text bracket outer left starts _ other ih =>
    rw [skipWithin_ended (dropSpaces_extend more starts), if_neg other, if_pos rfl]
    exact ih passed

/-! ### Records -/

theorem readText_eq_ok_iff {s : String} :
    readText text = .ok (s, rest) ↔
      ∃ left, dropSpaces text = '"' :: left ∧ readString left = .ok (s, rest) := by
  rw [readText]
  split
  · next ended => simp [ended]
  · next d left starts =>
    rw [starts]
    by_cases quote : d = '"'
    · simp [quote]
    · simp [quote]

theorem readText_extend {s : String} (read : readText text = .ok (s, rest)) :
    readText (text ++ more) = .ok (s, rest ++ more) := by
  obtain ⟨left, starts, read⟩ := readText_eq_ok_iff.1 read
  exact readText_eq_ok_iff.2
    ⟨left ++ more, dropSpaces_extend more starts, readString_extend more read⟩

theorem closeList_eq_ok_iff : closeList text = .ok rest ↔ dropSpaces text = ']' :: rest := by
  rw [closeList]
  split
  · next ended => simp [ended]
  · next d left starts =>
    rw [starts]
    by_cases closes : d = ']'
    · simp [closes]
    · simp only [closes, if_false, List.cons.injEq, false_and, iff_false]
      split
      · split <;> simp
      · simp

theorem closeList_extend (closed : closeList text = .ok rest) :
    closeList (text ++ more) = .ok (rest ++ more) :=
  closeList_eq_ok_iff.2 (dropSpaces_extend more (closeList_eq_ok_iff.1 closed))

theorem nextKey_extend {first another : Bool} (read : nextKey first text = .ok (another, rest)) :
    nextKey first (text ++ more) = .ok (another, rest ++ more) := by
  rw [nextKey] at read
  split at read
  · cases read
  next c left starts =>
  rw [nextKey, dropSpaces_extend more starts]
  dsimp only
  split at read
  · next closes => cases read; rw [if_pos closes]
  next goes_on =>
  rw [if_neg goes_on]
  split at read
  · next is_first =>
    rw [if_pos is_first]
    split at read
    · next quote => cases read; rw [if_pos quote]
    · cases read
  next not_first =>
  rw [if_neg not_first]
  split at read
  · next comma =>
    rw [if_pos comma]
    split at read
    · cases read
    next d behind starts =>
    rw [dropSpaces_extend more starts]
    dsimp only
    split at read
    · next quote => cases read; rw [if_pos quote]
    · split at read <;> cases read
  · cases read

theorem nextItem_extend {first another : Bool} (read : nextItem first text = .ok (another, rest)) :
    nextItem first (text ++ more) = .ok (another, rest ++ more) := by
  rw [nextItem] at read
  split at read
  · cases read
  next c left starts =>
  rw [nextItem, dropSpaces_extend more starts]
  dsimp only
  split at read
  · next closes => cases read; rw [if_pos closes]
  next goes_on =>
  rw [if_neg goes_on]
  split at read
  · next is_first => cases read; rw [if_pos is_first]; rfl
  next not_first =>
  rw [if_neg not_first]
  split at read
  · next comma =>
    rw [if_pos comma]
    split at read
    · cases read
    next d behind starts =>
    rw [dropSpaces_extend more starts]
    dsimp only
    split at read
    · cases read
    · next begins => cases read; rw [if_neg begins]; rfl
  · cases read

/-- A member that leaves something is read just the same. -/
theorem readMember_extend {fields : List String} {before after : List (String × String)}
    (read : readMember fields before text = .ok (after, rest)) (nonempty : rest ≠ []) :
    readMember fields before (text ++ more) = .ok (after, rest ++ more) := by
  obtain ⟨⟨key, text₁⟩, key_read, read⟩ := bind_eq_ok_iff.1 read
  rw [readMember, readString_extend more key_read, ok_bind]
  dsimp only at read ⊢
  split at read
  · next known =>
    rw [if_pos known]
    split at read
    · cases read
    · next fresh =>
      obtain ⟨⟨value, text₂⟩, value_read, read⟩ := bind_eq_ok_iff.1 read
      obtain ⟨text₃, colon, value_read⟩ := bind_eq_ok_iff.1 value_read
      cases read
      rw [if_neg fresh, skipColon_extend more colon, ok_bind, readText_extend more value_read]
      rfl
  · next unknown =>
    obtain ⟨text₂, passed, read⟩ := bind_eq_ok_iff.1 read
    obtain ⟨text₃, colon, passed⟩ := bind_eq_ok_iff.1 passed
    cases read
    rw [if_neg unknown, skipColon_extend more colon, ok_bind]
    simp only [skip, skipWithin_extend more passed nonempty]
    rfl

/-- There is something in front of the members of an object, or of its end. -/
theorem ne_nil_of_readMembers {fields : List String} {first : Bool}
    {before values : List (String × String)}
    (read : readMembers fields first before text = .ok (values, rest)) : text ≠ [] := by
  rintro rfl
  rw [readMembers_eq] at read
  cases read

/-- The members of an object, up to its end, are read just the same. -/
theorem readMembers_extend {fields : List String} {first : Bool}
    {before values : List (String × String)}
    (read : readMembers fields first before text = .ok (values, rest)) :
    readMembers fields first before (text ++ more) = .ok (values, rest ++ more) := by
  -- on the length, as the reader goes on with what a member leaves
  induction length : text.length using Nat.strong_induction_on generalizing first before text with
  | h n ih =>
    subst length
    rw [readMembers_eq] at read
    obtain ⟨⟨another, text₁⟩, key, read⟩ := bind_eq_ok_iff.1 read
    rw [readMembers_eq, nextKey_extend more key, ok_bind]
    cases another with
    | false =>
      cases read
      rfl
    | true =>
      obtain ⟨⟨after, text₂⟩, member, read⟩ := bind_eq_ok_iff.1 read
      have shorter : text₂.length < text.length :=
        (readMember_length_lt member).trans (nextKey_length_lt key)
      have behind := ih _ shorter read rfl
      dsimp only at behind ⊢
      rw [if_pos rfl, readMember_extend more member (ne_nil_of_readMembers read), ok_bind]
      exact behind

theorem readItems_extend {expected : String} {count : Nat} {fields : List String}
    {values : List (String × String)}
    (read : readItems expected count fields text = .ok (values, rest)) :
    readItems expected count fields (text ++ more) = .ok (values, rest ++ more) := by
  induction fields generalizing count text values with
  | nil =>
    obtain ⟨left, closed, read⟩ := bind_eq_ok_iff.1 read
    cases read
    rw [readItems, closeList_extend more closed]
    rfl
  | cons field fields ih =>
    rw [readItems] at read
    obtain ⟨⟨another, text₁⟩, item, read⟩ := bind_eq_ok_iff.1 read
    cases another with
    | false => cases read
    | true =>
      obtain ⟨⟨value, text₂⟩, value_read, read⟩ := bind_eq_ok_iff.1 read
      obtain ⟨⟨behind, text₃⟩, items, read⟩ := bind_eq_ok_iff.1 read
      cases read
      rw [readItems, nextItem_extend more item, ok_bind]
      simp only [readText_extend more value_read, ok_bind, ih items]
      rfl

namespace Shape

variable {α : Type} {shape : Shape α} {record : α} {values : List (String × String)}

/-- Whether there is a record that has the fields does not depend on what is behind them. -/
theorem assemble_of_assemble (made : shape.assemble values rest = .ok record)
    (rest' : List Char) : shape.assemble values rest' = .ok record :=
  mapError_eq_ok_iff.2 (mapError_eq_ok_iff.1 made)

/-- A record at the start of a text is read just the same. -/
theorem read_extend (read : shape.read text = .ok (record, rest)) :
    shape.read (text ++ more) = .ok (record, rest ++ more) := by
  rw [Shape.read] at read
  split at read
  · cases read
  next c left starts =>
  rw [Shape.read, dropSpaces_extend more starts]
  dsimp only
  cases opens : opener? c with
  | none => rw [opens] at read; cases read
  | some bracket =>
    rw [opens] at read
    cases bracket with
    | object =>
      obtain ⟨⟨values, behind⟩, members, read⟩ := bind_eq_ok_iff.1 read
      obtain ⟨record, made, read⟩ := bind_eq_ok_iff.1 read
      cases read
      simp only [readMembers_extend more members, ok_bind, assemble_of_assemble made]
      rfl
    | list =>
      obtain ⟨⟨values, behind⟩, items, read⟩ := bind_eq_ok_iff.1 read
      obtain ⟨record, made, read⟩ := bind_eq_ok_iff.1 read
      cases read
      simp only [readItems_extend more items, ok_bind, assemble_of_assemble made]
      rfl

/-- **A text that is a record is none with anything but blanks behind it.** -/
theorem readAll_append (read : shape.readAll text = .ok record) (stays : ¬ isSpace c) :
    shape.readAll (text ++ c :: more) = .error ⟨.trailingCharacters, c :: more, 1⟩ := by
  obtain ⟨⟨record', rest⟩, read, ended⟩ := bind_eq_ok_iff.1 read
  have spacing : IsSpacing rest := by
    dsimp only at ended
    split at ended
    · next nothing => exact List.dropWhile_eq_nil_iff.1 nothing
    · cases ended
  rw [readAll, read_extend (c :: more) read, ok_bind]
  dsimp only
  rw [dropSpaces_append_cons spacing stays]

end Shape

end Json

end PackageRelease
