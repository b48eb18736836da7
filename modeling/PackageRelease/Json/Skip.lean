/-
PackageRelease/Json/Skip.lean

Passing over a JSON value whose content is of no interest.

`skip` keeps the brackets that are open in a list, so that values may lie in
one another to any depth.  It is at one of three stages: a value is wanted, a
bracket has just been opened, or a value has just ended.
-/
import PackageRelease.Json.Escaped
import PackageRelease.Json.Numeral

namespace PackageRelease

namespace Json

/-! ### Blanks -/

/-- The character may stand between the parts of a JSON text. -/
def isSpace (c : Char) : Bool := c == ' ' || c == '\n' || c == '\t' || c == '\r'

/-- The text without the blanks at its start. -/
def dropSpaces (text : List Char) : List Char := text.dropWhile isSpace

theorem dropSpaces_length_le (text : List Char) : (dropSpaces text).length ≤ text.length :=
  (List.dropWhile_suffix _).length_le

theorem length_lt_of_dropSpaces {text rest : List Char} {c : Char}
    (h : dropSpaces text = c :: rest) : rest.length < text.length := by
  have := dropSpaces_length_le text
  rw [h, List.length_cons] at this
  omega

/-! ### Values without brackets -/

/-- The rest of a text behind the letters of a word. -/
def skipWord (word text : List Char) : Except Fault (List Char) :=
  match word, text with
  | [], text => .ok text
  | _ :: _, [] => .error ⟨.endInValue, [], 0⟩
  | w :: word, c :: rest =>
    if c = w then skipWord word rest else .error ⟨.expectedWord, c :: rest, 1⟩

/-- The character starts a number. -/
def startsNumeral (c : Char) : Bool := c == '-' || c.isDigit

/-- The rest of a text behind a value that is neither a list nor an object. -/
def skipScalar (text : List Char) : Except Fault (List Char) :=
  match text with
  | [] => .error ⟨.endInValue, [], 0⟩
  | c :: rest =>
    if c = 'n' then skipWord ['u', 'l', 'l'] rest
    else if c = 't' then skipWord ['r', 'u', 'e'] rest
    else if c = 'f' then skipWord ['a', 'l', 's', 'e'] rest
    else if c = '"' then skipString rest
    else if startsNumeral c then do
      let (_, rest) ← Numeral.read .invalidNumber (c :: rest)
      return rest
    else .error ⟨.expectedValue, c :: rest, 1⟩

theorem skipWord_length_le {word text rest : List Char} (h : skipWord word text = .ok rest) :
    rest.length ≤ text.length := by
  fun_induction skipWord word text with
  | case1 => cases h; exact Nat.le_refl _
  | case2 => cases h
  | case3 _ _ _ ih => exact Nat.le_succ_of_le (ih h)
  | case4 => cases h

theorem skipScalar_length_lt {text rest : List Char} (h : skipScalar text = .ok rest) :
    rest.length < text.length := by
  unfold skipScalar at h
  split at h
  · cases h
  split at h
  · exact Nat.lt_succ_of_le (skipWord_length_le h)
  split at h
  · exact Nat.lt_succ_of_le (skipWord_length_le h)
  split at h
  · exact Nat.lt_succ_of_le (skipWord_length_le h)
  split at h
  · exact Nat.lt_succ_of_lt (skipString_length_lt h)
  split at h
  · obtain ⟨⟨_, after⟩, hr, h⟩ := eq_ok_of_bind_eq_ok h
    cases h
    exact Numeral.read_length_lt hr
  · cases h

/-! ### Values with brackets -/

/-- The rest of a text behind a colon. -/
def skipColon (text : List Char) : Except Fault (List Char) :=
  match dropSpaces text with
  | [] => .error ⟨.endInside .object, [], 0⟩
  | c :: rest => if c = ':' then .ok rest else .error ⟨.expectedColon, c :: rest, 1⟩

/-- The rest of a text behind what stands before a value: in an object its key. -/
def skipKey (bracket : Bracket) (text : List Char) : Except Fault (List Char) :=
  match bracket with
  | .list => .ok text
  | .object =>
    match dropSpaces text with
    | [] => .error ⟨.endInside .object, [], 0⟩
    | c :: rest =>
      if c = '"' then skipString rest >>= skipColon else .error ⟨.keyNotString, c :: rest, 1⟩

theorem skipColon_length_lt {text rest : List Char} (h : skipColon text = .ok rest) :
    rest.length < text.length := by
  have hd := dropSpaces_length_le text
  unfold skipColon at h
  split at h
  · cases h
  · next he =>
    split at h
    · cases h
      rw [he, List.length_cons] at hd
      omega
    · cases h

theorem skipKey_length_le {bracket : Bracket} {text rest : List Char}
    (h : skipKey bracket text = .ok rest) : rest.length ≤ text.length := by
  have hd := dropSpaces_length_le text
  unfold skipKey at h
  split at h
  · cases h
    exact Nat.le_refl _
  split at h
  · cases h
  · next he =>
    rw [he, List.length_cons] at hd
    split at h
    · obtain ⟨after, hs, h⟩ := eq_ok_of_bind_eq_ok h
      have := skipString_length_lt hs
      have := skipColon_length_lt h
      omega
    · cases h

/-- Where in a value the reader stands. -/
inductive Stage where
  /-- A value is wanted. -/
  | value
  /-- A bracket has just been opened. -/
  | opened
  /-- A value has just ended. -/
  | ended
deriving DecidableEq, Repr

/-- The stages in the order in which one can follow another without a character between them. -/
def Stage.rank : Stage → Nat
  | value => 0
  | opened => 1
  | ended => 0

/-- The kind of bracket that the character opens. -/
def opener? (c : Char) : Option Bracket :=
  if c = '[' then some .list else if c = '{' then some .object else none

/-- The rest of a text behind the values in which the reader stands, the innermost first. -/
def skipWithin (stage : Stage) (brackets : List Bracket) (text : List Char) :
    Except Fault (List Char) :=
  match stage, brackets with
  | .value, brackets =>
    match h : dropSpaces text with
    | [] => .error ⟨.endInValue, [], 0⟩
    | c :: rest =>
      have := length_lt_of_dropSpaces h
      match opener? c with
      | some bracket => skipWithin .opened (bracket :: brackets) rest
      | none =>
        match h : skipScalar (c :: rest) with
        | .error fault => .error fault
        | .ok left =>
          have := skipScalar_length_lt h
          skipWithin .ended brackets left
  | .opened, [] => .ok text
  | .opened, bracket :: outer =>
    match h : dropSpaces text with
    | [] => .error ⟨.endInside bracket, [], 0⟩
    | c :: rest =>
      have := length_lt_of_dropSpaces h
      if c = bracket.closer then skipWithin .ended outer rest
      else
        match h : skipKey bracket (c :: rest) with
        | .error fault => .error fault
        | .ok left =>
          have := skipKey_length_le h
          skipWithin .value (bracket :: outer) left
  | .ended, [] => .ok text
  | .ended, bracket :: outer =>
    match h : dropSpaces text with
    | [] => .error ⟨.endInside bracket, [], 0⟩
    | c :: rest =>
      have := length_lt_of_dropSpaces h
      if c = ',' then
        match h : skipKey bracket rest with
        | .error fault => .error fault
        | .ok left =>
          have := skipKey_length_le h
          skipWithin .value (bracket :: outer) left
      else if c = bracket.closer then skipWithin .ended outer rest
      else .error ⟨.expectedCommaOrEnd bracket, c :: rest, 1⟩
termination_by (text.length, stage.rank)
decreasing_by
  all_goals
    simp only [Prod.lex_def, Stage.rank, List.length_cons] at *
    omega

/-- The rest of a text behind a value. -/
def skip (text : List Char) : Except Fault (List Char) := skipWithin .value [] text

theorem skipWithin_length_le {stage : Stage} {brackets : List Bracket} {text rest : List Char}
    (h : skipWithin stage brackets text = .ok rest) : rest.length ≤ text.length := by
  fun_induction skipWithin stage brackets text with
  | case1 | case3 | case6 | case8 | case11 | case12 | case15 => cases h
  | case5 | case10 => cases h; exact Nat.le_refl _
  | case2 _ _ _ _ _ hlt _ _ ih => exact Nat.le_trans (ih h) (Nat.le_of_lt hlt)
  | case7 _ _ _ _ _ hlt ih => exact Nat.le_trans (ih h) (Nat.le_of_lt hlt)
  | case14 _ _ _ _ _ hlt _ ih => exact Nat.le_trans (ih h) (Nat.le_of_lt hlt)
  | case4 _ _ _ _ _ hlt _ _ _ hleft ih =>
    exact Nat.le_trans (ih h) (Nat.le_trans (Nat.le_of_lt_succ hleft) (Nat.le_of_lt hlt))
  | case9 _ _ _ _ _ _ hlt _ _ _ hleft ih => exact Nat.le_trans (ih h) (Nat.le_trans hleft hlt)
  | case13 _ _ _ _ _ _ hleft _ hlt ih =>
    exact Nat.le_trans (ih h) (Nat.le_trans hleft (Nat.le_of_lt hlt))

end Json

end PackageRelease
