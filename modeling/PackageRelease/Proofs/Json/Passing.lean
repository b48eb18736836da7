/-
PackageRelease/Proofs/Json/Passing.lean

Passing over a value that is written in one of its ways.

The reader keeps the brackets in which it stands in a list.  A value takes it
from the stage at which a value is wanted to the one at which a value has
ended, the items of an array or the members of an object, with their end, take
it out of a bracket, and the brackets outside are the same before and after:

    value             value, outer              ->  ended, outer
    items, members    opened, bracket :: outer  ->  ended, outer
    behind a comma    ended, bracket :: outer   ->  ended, outer

This is an induction on the value, so that it may be nested to any depth
(`skip_value`).
-/
import Mathlib.Data.List.DropRight
import PackageRelease.Proofs.Json.Rendering

namespace PackageRelease

namespace Json

variable {outer : List Bracket} {text rest : List Char} {c : Char}
variable {token : Token} {tokens : List Token}

/-- The stage in front of an item or a member, and in front of the end. -/
def stageAt (first : Bool) : Stage := if first then .opened else .ended

/-! ### Blanks -/

theorem dropSpaces_cons (starts : dropSpaces text = c :: rest) :
    dropSpaces (c :: rest) = c :: rest := by
  have again : dropSpaces (dropSpaces text) = dropSpaces text := List.dropWhile_idempotent _ _
  rwa [starts] at again

/-- Blanks in front of a value make no difference. -/
theorem skipWithin_value_start (starts : dropSpaces text = c :: rest) :
    skipWithin .value outer (c :: rest) = skipWithin .value outer text := by
  rw [skipWithin_value (dropSpaces_cons starts), skipWithin_value starts]

/-- Blanks in front of a key make no difference. -/
theorem skipKey_start (starts : dropSpaces text = c :: rest) :
    skipKey .object (c :: rest) = skipKey .object text := by
  simp only [skipKey, dropSpaces_cons starts, starts]

/-! ### Values that are one token -/

/-- A token that is no bracket is passed over if its characters are. -/
theorem skipWithin_token (written : Written [token] text)
    (passes : ∀ form, token.Form form → ∃ c after, form = c :: after ∧ ¬ isSpace c ∧
      opener? c = none ∧ skipScalar (form ++ rest) = .ok rest) :
    skipWithin .value outer (text ++ rest) = skipWithin .ended outer rest := by
  obtain ⟨blanks, form, after, rfl, spacing, is_form, rfl⟩ := written
  obtain ⟨c, more, rfl, stays, unopened, passed⟩ := passes form is_form
  have starts : dropSpaces (blanks ++ (c :: more ++ []) ++ rest) = c :: (more ++ rest) := by
    rw [List.append_nil, List.append_assoc, List.cons_append,
      dropSpaces_append_cons spacing stays]
  rw [List.cons_append] at passed
  rw [skipWithin_value starts, unopened]
  simp only [passed, ok_bind]

/-- A number is passed over. -/
theorem skipScalar_numeral {form : List Char} (is : IsNumeral form) (ends : EndsNumeral rest) :
    ∃ c after, form = c :: after ∧ ¬ isSpace c ∧ opener? c = none ∧
      skipScalar (form ++ rest) = .ok rest := by
  obtain ⟨c, after, rfl, starts⟩ := Numeral.exists_startsNumeral is
  have start := startsWith_numeral starts ""
  have apart {d : Char} (other : startsNumeral d = false) : c ≠ d :=
    startsNumeral_apart starts other
  refine ⟨c, after, rfl, start.stays, start.opener, ?_⟩
  obtain ⟨numeral, read⟩ := @Numeral.read_numeral _ .invalidNumber _ is ends
  rw [List.cons_append] at read ⊢
  rw [skipScalar, if_neg (apart (by decide)), if_neg (apart (by decide)),
    if_neg (apart (by decide)), if_neg (apart (by decide)), if_pos starts, read]
  rfl

/-! ### Items and members -/

/-- The reader comes from the bracket of an array, or from an item, to the next item. -/
theorem skipWithin_item {first : Bool} {value : Json}
    (written : Written (separator first ++ (value.tokens ++ tokens)) text) :
    ∃ front back, Written value.tokens front ∧ Written tokens back ∧
      ∀ rest, skipWithin (stageAt first) (.list :: outer) (text ++ rest)
        = skipWithin .value (.list :: outer) (front ++ (back ++ rest)) := by
  have keyless (text : List Char) : skipKey .list text = .ok text := rfl
  cases first with
  | true =>
    have written : Written (value.tokens ++ tokens) text := written
    obtain ⟨front, back, rfl, written, written'⟩ := written.exists_append
    obtain ⟨c, left, start, starts⟩ := written.exists_dropSpaces
    have other : c ≠ Bracket.list.closer := start.other
    refine ⟨front, back, written, written', fun rest => ?_⟩
    rw [List.append_assoc, stageAt, if_pos rfl, skipWithin_opened (starts _), if_neg other, keyless,
      ok_bind, skipWithin_value_start (starts _)]
  | false =>
    have written : Written (mark ',' :: (value.tokens ++ tokens)) text := written
    obtain ⟨after, written, starts⟩ := written.exists_mark (by decide)
    obtain ⟨front, back, rfl, written, written'⟩ := written.exists_append
    refine ⟨front, back, written, written', fun rest => ?_⟩
    rw [stageAt, if_neg (by decide), skipWithin_ended (starts rest), if_pos rfl, keyless, ok_bind,
      List.append_assoc]

/-- A key is passed over, and the colon behind it. -/
theorem skipKey_written {key : String}
    (written : Written (.string key :: mark ':' :: tokens) text) :
    ∃ after, Written tokens after ∧
      ∀ rest, skipKey .object (text ++ rest) = .ok (after ++ rest) := by
  obtain ⟨body, behind, spelling, written, starts⟩ := written.exists_string
  obtain ⟨after, written, colon⟩ := written.exists_mark (by decide)
  refine ⟨after, written, fun rest => ?_⟩
  simp only [skipKey, starts rest, if_true, skipString_spelling spelling, ok_bind, skipColon,
    colon rest]

/-- The reader comes from the bracket of an object, or from a member, to the value of the next
member. -/
theorem skipWithin_member {first : Bool} {key : String} {value : Json}
    (written : Written
      (separator first ++ (.string key :: mark ':' :: (value.tokens ++ tokens))) text) :
    ∃ front back, Written value.tokens front ∧ Written tokens back ∧
      ∀ rest, skipWithin (stageAt first) (.object :: outer) (text ++ rest)
        = skipWithin .value (.object :: outer) (front ++ (back ++ rest)) := by
  cases first with
  | true =>
    obtain ⟨_, _, -, -, starts⟩ := Written.exists_string written
    obtain ⟨after, written, skipped⟩ := skipKey_written written
    obtain ⟨front, back, rfl, written, written'⟩ := written.exists_append
    refine ⟨front, back, written, written', fun rest => ?_⟩
    rw [stageAt, if_pos rfl, skipWithin_opened (starts rest), if_neg (by decide),
      skipKey_start (starts rest), skipped rest, ok_bind, List.append_assoc]
  | false =>
    obtain ⟨behind, written, starts⟩ := Written.exists_mark written (by decide)
    obtain ⟨after, written, skipped⟩ := skipKey_written written
    obtain ⟨front, back, rfl, written, written'⟩ := written.exists_append
    refine ⟨front, back, written, written', fun rest => ?_⟩
    rw [stageAt, if_neg (by decide), skipWithin_ended (starts rest), if_pos rfl, skipped rest,
      ok_bind, List.append_assoc]

/-- The end takes the reader out of the bracket. -/
theorem skipWithin_close {first : Bool} {bracket : Bracket}
    (written : Written [mark bracket.closer] text) (rest : List Char) :
    skipWithin (stageAt first) (bracket :: outer) (text ++ rest)
      = skipWithin .ended outer rest := by
  have stays : ¬ isSpace bracket.closer := by cases bracket <;> decide
  have other : bracket.closer ≠ ',' := by cases bracket <;> decide
  obtain ⟨after, rfl, starts⟩ := written.exists_mark stays
  cases first with
  | true => rw [stageAt, if_pos rfl, skipWithin_opened (starts rest), if_pos rfl, List.nil_append]
  | false =>
    rw [stageAt, if_neg (by decide), skipWithin_ended (starts rest), if_neg other, if_pos rfl,
      List.nil_append]

/-! ### Values -/

mutual

/-- A value that is written is passed over. -/
theorem skipWithin_written {value : Json} {text rest : List Char}
    (written : Written value.tokens text) (ends : EndsNumeral rest) (outer : List Bracket) :
    skipWithin .value outer (text ++ rest) = skipWithin .ended outer rest := by
  match value with
  | null =>
    refine skipWithin_token written ?_
    rintro form rfl
    exact ⟨_, _, rfl, by decide, by decide, rfl⟩
  | bool true =>
    refine skipWithin_token written ?_
    rintro form rfl
    exact ⟨_, _, rfl, by decide, by decide, rfl⟩
  | bool false =>
    refine skipWithin_token written ?_
    rintro form rfl
    exact ⟨_, _, rfl, by decide, by decide, rfl⟩
  | number literal =>
    refine skipWithin_token written ?_
    rintro form ⟨-, is⟩
    exact skipScalar_numeral is ends
  | string content =>
    refine skipWithin_token written ?_
    rintro form ⟨body, rfl, spelling⟩
    refine ⟨_, _, rfl, by decide, by decide, ?_⟩
    have passed := skipString_spelling spelling rest
    simpa [skipScalar] using passed
  | array items =>
    obtain ⟨after, written, starts⟩ := Written.exists_mark written (by decide)
    rw [skipWithin_value (starts rest)]
    exact skipWithin_items true written rest outer
  | object members =>
    obtain ⟨after, written, starts⟩ := Written.exists_mark written (by decide)
    rw [skipWithin_value (starts rest)]
    exact skipWithin_members true written rest outer

/-- The items of an array that is written are passed over. -/
theorem skipWithin_items (first : Bool) {items : List Json} {text : List Char}
    (written : Written (itemTokens first items) text) (rest : List Char) (outer : List Bracket) :
    skipWithin (stageAt first) (.list :: outer) (text ++ rest) = skipWithin .ended outer rest := by
  match items with
  | [] => exact @skipWithin_close outer text first .list written rest
  | item :: items =>
    -- what is behind the item starts with a comma or with the end, and so ends a number
    obtain ⟨front, back, written, written', next⟩ := skipWithin_item written
    rw [next, skipWithin_written written (written'.endsNumeral_items rest)]
    exact skipWithin_items false written' rest outer

/-- The members of an object that is written are passed over. -/
theorem skipWithin_members (first : Bool) {members : List (String × Json)} {text : List Char}
    (written : Written (memberTokens first members) text) (rest : List Char)
    (outer : List Bracket) :
    skipWithin (stageAt first) (.object :: outer) (text ++ rest)
      = skipWithin .ended outer rest := by
  match members with
  | [] => exact @skipWithin_close outer text first .object written rest
  | (key, value) :: members =>
    obtain ⟨front, back, written, written', next⟩ := skipWithin_member written
    rw [next, skipWithin_written written (written'.endsNumeral_members rest)]
    exact skipWithin_members false written' rest outer

end

/-- **A value is passed over, however it is written and nested.** -/
theorem skip_written {value : Json} (written : Written value.tokens text)
    (ends : EndsNumeral rest) : skip (text ++ rest) = .ok rest := by
  rw [skip, skipWithin_written written ends, skipWithin]

end Json

end PackageRelease
