/-
PackageRelease/Json/Numeral.lean

Numbers as they stand in a text, and what they amount to.

A numeral is a sign, a whole part, and perhaps a fraction and an exponent.
`Numeral.read` takes the longest numeral at the start of a text.  Its value is
an integer if it has neither fraction nor exponent and fits into 64 bits, and
else the number of double precision that its first digits and its exponent
give: digits that no longer fit into 64 bits count with their place only.
-/
import PackageRelease.Decimal.Shortest
import PackageRelease.Json.Fault

namespace PackageRelease

namespace Json

/-- A number as it is written. -/
structure Numeral where
  negative : Bool
  whole : List Char
  /-- The digits behind the point; none if there is no point. -/
  fraction : List Char
  /-- Whether the exponent is negative, and its digits. -/
  exponent : Option (Bool × List Char)
deriving DecidableEq, Repr

namespace Numeral

/-! ### Reading -/

/-- A fault where a digit is wanted: at the end of the text it is `atEnd`. -/
def wantsDigit (atEnd : Cause) (unread : List Char) : Fault :=
  match unread with
  | [] => ⟨atEnd, [], 0⟩
  | c :: rest => ⟨.invalidNumber, c :: rest, 1⟩

/-- The digits at the start of a text, and the rest. -/
def digits (text : List Char) : List Char × List Char :=
  (text.takeWhile Char.isDigit, text.dropWhile Char.isDigit)

/-- The whole part: a zero alone, or digits that start with another one. -/
def readWhole (atEnd : Cause) (text : List Char) : Except Fault (List Char × List Char) :=
  match text with
  | '0' :: rest =>
    if rest.head?.any Char.isDigit then .error ⟨.invalidNumber, rest, 1⟩ else .ok (['0'], rest)
  | text =>
    match digits text with
    | ([], rest) => .error (wantsDigit atEnd rest)
    | found => .ok found

/-- The fraction, if there is a point. -/
def readFraction (atEnd : Cause) (text : List Char) : Except Fault (List Char × List Char) :=
  match text with
  | '.' :: rest =>
    match digits rest with
    | ([], rest) => .error (wantsDigit atEnd rest)
    | found => .ok found
  | text => .ok ([], text)

/-- The sign of an exponent, and the rest. -/
def exponentSign (text : List Char) : Bool × List Char :=
  match text with
  | '-' :: rest => (true, rest)
  | '+' :: rest => (false, rest)
  | text => (false, text)

/-- The exponent, if there is one. -/
def readExponent (atEnd : Cause) (text : List Char) :
    Except Fault (Option (Bool × List Char) × List Char) :=
  match text with
  | c :: rest =>
    if c = 'e' ∨ c = 'E' then
      match digits (exponentSign rest).2 with
      | ([], rest) => .error (wantsDigit atEnd rest)
      | (found, left) => .ok (some ((exponentSign rest).1, found), left)
    else .ok (none, c :: rest)
  | [] => .ok (none, [])

/-- The numeral at the start of a text, and the rest. -/
def read (atEnd : Cause) (text : List Char) : Except Fault (Numeral × List Char) := do
  let negative := text.head? = some '-'
  let (whole, text) ← readWhole atEnd (if negative then text.drop 1 else text)
  let (fraction, text) ← readFraction atEnd text
  let (exponent, text) ← readExponent atEnd text
  return (⟨negative, whole, fraction, exponent⟩, text)

/-! ### A numeral leaves less than there was -/

theorem digits_length_le (text : List Char) : (digits text).2.length ≤ text.length :=
  (List.dropWhile_suffix _).length_le

theorem digits_length_lt {text : List Char} (h : (digits text).1 ≠ []) :
    (digits text).2.length < text.length := by
  have := congrArg List.length (List.takeWhile_append_dropWhile (p := Char.isDigit) (l := text))
  rw [List.length_append] at this
  have : 0 < (digits text).1.length := List.length_pos_iff.2 h
  simp only [digits] at *
  omega

theorem readWhole_length_lt {atEnd : Cause} {text rest : List Char} {whole : List Char}
    (h : readWhole atEnd text = .ok (whole, rest)) : rest.length < text.length := by
  unfold readWhole at h
  split at h
  · split at h
    · cases h
    · cases h
      simp
  · split at h
    · cases h
    · next hne =>
      cases h
      exact digits_length_lt fun he => hne _ (Prod.ext he rfl)

theorem readFraction_length_le {atEnd : Cause} {text rest : List Char} {fraction : List Char}
    (h : readFraction atEnd text = .ok (fraction, rest)) : rest.length ≤ text.length := by
  unfold readFraction at h
  split at h
  · split at h
    · cases h
    · cases h
      exact Nat.le_succ_of_le (digits_length_le _)
  · cases h
    exact Nat.le_refl _

theorem exponentSign_length_le (text : List Char) :
    (exponentSign text).2.length ≤ text.length := by
  unfold exponentSign
  split <;> simp

theorem readExponent_length_le {atEnd : Cause} {text rest : List Char}
    {exponent : Option (Bool × List Char)}
    (h : readExponent atEnd text = .ok (exponent, rest)) : rest.length ≤ text.length := by
  unfold readExponent at h
  split at h
  · split at h
    · split at h
      · cases h
      · next c after _ _ found left _ hd =>
        cases h
        have hle := digits_length_le (exponentSign after).2
        have := exponentSign_length_le after
        rw [hd] at hle
        simp only [List.length_cons] at *
        omega
    · cases h
      exact Nat.le_refl _
  · cases h
    exact Nat.le_refl _

theorem read_length_lt {atEnd : Cause} {text rest : List Char} {numeral : Numeral}
    (h : read atEnd text = .ok (numeral, rest)) : rest.length < text.length := by
  obtain ⟨⟨w, t₁⟩, hw, h⟩ := eq_ok_of_bind_eq_ok h
  obtain ⟨⟨f, t₂⟩, hf, h⟩ := eq_ok_of_bind_eq_ok h
  obtain ⟨⟨e, t₃⟩, he, h⟩ := eq_ok_of_bind_eq_ok h
  cases h
  have h₁ := readWhole_length_lt hw
  have h₂ := readFraction_length_le hf
  have h₃ := readExponent_length_le he
  have : (if text.head? = some '-' then text.drop 1 else text).length ≤ text.length := by
    split <;> simp
  simp only at *
  omega

/-! ### Amounts -/

/-- One more digit behind a natural number, if the result is at most `limit`. -/
def extend? (limit n : Nat) (digit : Char) : Option Nat :=
  let m := n * 10 + (digit.toNat - 48)
  if m ≤ limit then some m else none

/-- The largest significand. -/
def significandLimit : Nat := Nat.pow 2 64 - 1

/-- The number of the leading digits that fit, and how many digits do not. -/
def wholeAmount (n : Nat) : List Char → Nat × Nat
  | [] => (n, 0)
  | d :: rest =>
    match extend? significandLimit n d with
    | some m => wholeAmount m rest
    | none => (n, rest.length + 1)

/-- The number with those of the digits behind it that fit, and how many they are. -/
def fractionAmount (n : Nat) : List Char → Nat × Nat
  | [] => (n, 0)
  | d :: rest =>
    match extend? significandLimit n d with
    | some m => let (k, count) := fractionAmount m rest; (k, count + 1)
    | none => (n, 0)

/-- The exponent, or the digits that follow the one at which it grows past 31 bits. -/
def exponentAmount (n : Nat) : List Char → Except (List Char) Nat
  | [] => .ok n
  | d :: rest =>
    match extend? (Nat.pow 2 31 - 1) n d with
    | some m => exponentAmount m rest
    | none => .error rest

/-- The division of `x` by 10 ^ 308 as often as `e` asks for, and then by the rest of `e`. -/
def scaleDown (x : Binary64) (e : Nat) : Nat → Binary64
  | 0 => x
  | steps + 1 =>
    if e ≤ 308 then ((Binary64.ofNat? (Nat.pow 10 e)).bind x.div?).getD x
    else if x.isZero then x
    else scaleDown (((Binary64.ofNat? (Nat.pow 10 308)).bind x.div?).getD x) (e - 308) steps

/-- The number of double precision for `significand * 10 ^ e`, if it is not too large. -/
def scaled? (significand : Nat) (e : Int) : Option Binary64 := do
  let x ← Binary64.ofNat? significand
  if 0 ≤ e then
    if 308 < e then if x.isZero then some x else none
    else x.mul? (← Binary64.ofNat? (Nat.pow 10 e.toNat))
  else some (scaleDown x e.natAbs 5)

/-- A floating-point number in words. -/
def floating (negative : Bool) (x : Binary64) : Found :=
  .floating ((if negative then "-" else "") ++ Shortest.text x)

/-- What the numeral amounts to, or the digits that follow the one at which it grows too large. -/
def found (numeral : Numeral) : Except (List Char) Found :=
  let (n, dropped) := wholeAmount 0 numeral.whole
  let (n, places) := fractionAmount n numeral.fraction
  let e : Int := dropped - places
  match numeral.exponent with
  | none =>
    if numeral.fraction.isEmpty ∧ dropped = 0 ∧ (numeral.negative → 0 < n ∧ n ≤ Nat.pow 2 63) then
      .ok (.integer ((if numeral.negative then "-" else "") ++ toString n))
    else
      match scaled? n e with
      | some x => .ok (floating numeral.negative x)
      | none => .error []
  | some (down, digits) =>
    match exponentAmount 0 digits with
    | .ok amount =>
      match scaled? n (if down then e - amount else e + amount) with
      | some x => .ok (floating numeral.negative x)
      | none => .error []
    | .error rest =>
      if n = 0 ∨ down then .ok (floating numeral.negative ⟨0, Binary64.smallestExponent⟩)
      else .error rest

end Numeral

end Json

end PackageRelease
