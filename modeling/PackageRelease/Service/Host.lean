/-
PackageRelease/Service/Host.lean

Hosts as they stand in an address.

A host is a name, a number address such as 127.0.0.1, or a longer number
address in brackets.  Escapes in a name are taken for what they stand for, and
ASCII letters are lowered; the result may hold no character that has a meaning
in an address.  A name whose last label is a number is a number address, and
then it has to be a good one.

Characters outside ASCII stay as they are.  A resolver would want them in their
ASCII form (`xn--...`), and some of them cannot be put into it; such names are
beyond what is told here.
-/
import PackageRelease.Text.Blank
import PackageRelease.Text.Segments
import PackageRelease.Text.Utf8

namespace PackageRelease

namespace Host

/-! ### Numbers -/

/-- The value of a digit in any base up to sixteen. -/
def digit? (base : Nat) (c : Char) : Option Nat :=
  let n := c.toNat
  let v :=
    if 48 ≤ n ∧ n ≤ 57 then n - 48
    else if 65 ≤ n ∧ n ≤ 70 then n - 55
    else if 97 ≤ n ∧ n ≤ 102 then n - 87
    else 16
  if v < base then some v else none

/-- The value of some digits; of none it is zero. -/
def digits? (base : Nat) (text : List Char) : Option Nat :=
  text.foldlM (fun n c => (digit? base c).map (n * base + ·)) 0

/-- The value of a part of a number address: decimal, octal behind a zero, or hexadecimal. -/
def part? : List Char → Option Nat
  | [] => none
  | '0' :: 'x' :: rest => digits? 16 rest
  | '0' :: 'X' :: rest => digits? 16 rest
  | '0' :: c :: rest => digits? 8 (c :: rest)
  | text => digits? 10 text

/-- The label makes a name a number address. -/
def isNumber (label : List Char) : Bool :=
  match label with
  | [] => false
  | '0' :: 'x' :: rest => (digits? 16 rest).isSome
  | '0' :: 'X' :: rest => (digits? 16 rest).isSome
  | label => (digits? 10 label).isSome

/-- The labels of a name, without an empty one at its end. -/
def labels (name : List Char) : List (List Char) :=
  let all := segments '.' name
  if 1 < all.length ∧ all.getLast? = some [] then all.dropLast else all

/-- The value of a number address with the given parts; the last one fills up what is left. -/
def numberOf? (parts : List Nat) : Option Nat :=
  match parts.reverse with
  | [] => none
  | last :: before =>
    if parts.length ≤ 4 ∧ before.all (· < 256) ∧ last < Nat.pow 256 (5 - parts.length) then
      some (before.reverse.foldl (fun n p => n * 256 + p) 0 * Nat.pow 256 (5 - parts.length) + last)
    else none

/-- A number address in four parts. -/
def dotted (n : Nat) : List Char :=
  List.intercalate ['.']
    ([n / 16777216, n / 65536 % 256, n / 256 % 256, n % 256].map (Nat.toDigits 10))

/-! ### Longer numbers -/

/-- The parts of four bytes without leading zeros. -/
def isDotted (text : List Char) : Bool :=
  let parts := segments '.' text
  parts.length == 4 && parts.all fun part =>
    match part with
    | '0' :: _ :: _ => false
    | [] => false
    | part => (digits? 10 part).any (· < 256)

/-- How many of eight groups the pieces between colons make up. -/
def groups? : List (List Char) → Option Nat
  | [] => some 0
  | [piece] =>
    if isDotted piece then some 2
    else if 0 < piece.length ∧ piece.length ≤ 4 ∧ (digits? 16 piece).isSome then some 1
    else none
  | piece :: rest =>
    if 0 < piece.length ∧ piece.length ≤ 4 ∧ (digits? 16 piece).isSome then
      (groups? rest).map (· + 1)
    else none

/-- The text in front of the first two colons in a row, and the text behind them. -/
def aroundGap? : List Char → Option (List Char × List Char)
  | ':' :: ':' :: rest => some ([], rest)
  | [] => none
  | c :: rest => (aroundGap? rest).map fun (before, after) => (c :: before, after)

/-- The pieces between the colons of a text; an empty text has none. -/
def pieces (text : List Char) : List (List Char) :=
  if text.isEmpty then [] else segments ':' text

/-- The text is a number address of eight groups, of which two colons may stand for some. -/
def isLong (text : List Char) : Bool :=
  match aroundGap? text with
  | none => groups? (pieces text) == some 8
  | some (before, after) =>
    match groups? (pieces before), groups? (pieces after) with
    | some a, some b => a + b < 8 && !before.contains '.'
    | _, _ => false

/-! ### Names -/

/-- Bytes with the escapes taken for what they stand for. -/
def unescape : List UInt8 → List UInt8
  | [] => []
  | [a] => [a]
  | [a, b] => [a, b]
  | a :: b :: c :: rest =>
    match digit? 16 (Char.ofNat b.toNat), digit? 16 (Char.ofNat c.toNat) with
    | some high, some low =>
      if a = 37 then (high * 16 + low).toUInt8 :: unescape rest else a :: unescape (b :: c :: rest)
    | _, _ => a :: unescape (b :: c :: rest)

/-- The characters that cannot stand in a host, blanks and control characters apart. -/
def reserved : List Char := "\"#%/:<>?@[\\]^`\x7b|\x7d".toList

/-- The character cannot stand in a host. -/
def isForbidden (c : Char) : Bool :=
  c.toNat ≤ 0x20 || c.toNat == 0x7f || isBlank c || reserved.contains c

/-- The host that a text stands for; a name outside ASCII is not put into its ASCII form. -/
def parse? (text : List Char) : Option (List Char) :=
  match text with
  | '[' :: rest =>
    if rest.getLast? = some ']' ∧ isLong rest.dropLast then some (text.map Char.toLower) else none
  | text =>
    let bytes := unescape (text.flatMap Utf8.encodeChar)
    let name := (Utf8.decodeLossy bytes).toList.map Char.toLower
    if name.isEmpty ∨ name.any isForbidden then none
    else if (labels name).getLast?.any isNumber then
      do return dotted (← numberOf? (← (labels name).mapM part?))
    else some name

end Host

end PackageRelease
