/-
PackageRelease/Text/Base64.lean

Bytes as printable text: every three bytes become four characters of a
64-letter alphabet, and `=` fills up a last group of one or two bytes.

`decode?` reads such a text back.  It takes whole groups only, wants the
filling at the end only, and wants the bits that the filling stands for to be
zero, so that each list of bytes has exactly one text.
-/

namespace PackageRelease

namespace Base64

/-! ### The alphabet -/

/-- The letter of a six-bit value. -/
def letter (v : Nat) : Char :=
  if v < 26 then Char.ofNat (65 + v)
  else if v < 52 then Char.ofNat (97 + (v - 26))
  else if v < 62 then Char.ofNat (48 + (v - 52))
  else if v = 62 then '+'
  else '/'

/-- The six-bit value of a letter. -/
def value? (c : Char) : Option Nat :=
  let n := c.toNat
  if 65 ≤ n ∧ n ≤ 90 then some (n - 65)
  else if 97 ≤ n ∧ n ≤ 122 then some (n - 97 + 26)
  else if 48 ≤ n ∧ n ≤ 57 then some (n - 48 + 52)
  else if c = '+' then some 62
  else if c = '/' then some 63
  else none

theorem value?_letter : ∀ v, v < 64 → value? (letter v) = some v := by decide

theorem letter_ne_filling : ∀ v, v < 64 → letter v ≠ '=' := by decide

/-! ### Writing and reading -/

/-- The characters of the bytes. -/
def encodeChars : List UInt8 → List Char
  | [] => []
  | [a] =>
    let v := a.toNat * 16
    [letter (v / 64), letter (v % 64), '=', '=']
  | [a, b] =>
    let v := (a.toNat * 256 + b.toNat) * 4
    [letter (v / 4096), letter (v / 64 % 64), letter (v % 64), '=']
  | a :: b :: c :: rest =>
    let v := (a.toNat * 256 + b.toNat) * 256 + c.toNat
    letter (v / 262144) :: letter (v / 4096 % 64) :: letter (v / 64 % 64) :: letter (v % 64) ::
      encodeChars rest

/-- The text of the bytes. -/
def encode (bytes : List UInt8) : String := String.ofList (encodeChars bytes)

/-- The bytes of the characters, if they are the text of some bytes. -/
def decodeChars? : List Char → Option (List UInt8)
  | [] => some []
  | [a, b, '=', '='] => do
    let v := (← value? a) * 64 + (← value? b)
    if v % 16 = 0 then some [(v / 16).toUInt8] else none
  | [a, b, c, '='] => do
    let v := ((← value? a) * 64 + (← value? b)) * 64 + (← value? c)
    if v % 4 = 0 then some [(v / 1024).toUInt8, (v / 4 % 256).toUInt8] else none
  | a :: b :: c :: d :: rest => do
    let v := (((← value? a) * 64 + (← value? b)) * 64 + (← value? c)) * 64 + (← value? d)
    let more ← decodeChars? rest
    some ((v / 65536).toUInt8 :: (v / 256 % 256).toUInt8 :: (v % 256).toUInt8 :: more)
  | _ => none

/-- The bytes of the text, if it is the text of some bytes. -/
def decode? (text : String) : Option (List UInt8) := decodeChars? text.toList

end Base64

end PackageRelease
