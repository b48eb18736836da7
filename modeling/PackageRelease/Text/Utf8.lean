/-
PackageRelease/Text/Utf8.lean

Texts as bytes: the UTF-8 form of a text, and the reading of bytes that may
not be UTF-8 at all.

The reader looks at one byte at a time and remembers what it waits for
(`Awaited`).  A lead byte fixes how many continuation bytes follow and which
values the first of them may have, so that over-long forms, surrogates and
values past U+10FFFF are refused at the earliest byte.  What a reader yields
is a list of *units*: a character, or `none` for one malformed stretch.  A
stretch ends just before the byte that does not fit, and that byte is read
afresh.

From the units come the two readings:

    decode? bytes   -- the text, if nothing is malformed
    decodeLossy bytes   -- the text with U+FFFD for each malformed stretch
-/

namespace PackageRelease

namespace Utf8

/-! ### Writing -/

/-- The bytes of one character. -/
def encodeChar (c : Char) : List UInt8 :=
  let n := c.toNat
  if n < 0x80 then [n.toUInt8]
  else if n < 0x800 then [(0xc0 + n / 64).toUInt8, (0x80 + n % 64).toUInt8]
  else if n < 0x10000 then
    [(0xe0 + n / 4096).toUInt8, (0x80 + n / 64 % 64).toUInt8, (0x80 + n % 64).toUInt8]
  else
    [(0xf0 + n / 262144).toUInt8, (0x80 + n / 4096 % 64).toUInt8,
      (0x80 + n / 64 % 64).toUInt8, (0x80 + n % 64).toUInt8]

/-- The bytes of a text. -/
def encode (text : String) : List UInt8 := text.toList.flatMap encodeChar

/-! ### Reading -/

/-- What the reader waits for. -/
inductive Awaited where
  /-- The first byte of a character. -/
  | lead
  /-- `left` more continuation bytes, the next of them between `low` and `high`, on top of
  the bits in `value`. -/
  | more (left value low high : Nat)
deriving Repr, DecidableEq

/-- What a byte yields at once, and what is waited for after it. -/
def start (b : UInt8) : List (Option Char) × Awaited :=
  let n := b.toNat
  if n < 0x80 then ([some (Char.ofNat n)], .lead)
  else if n < 0xc2 then ([none], .lead)
  else if n < 0xe0 then ([], .more 1 (n - 0xc0) 0x80 0xbf)
  else if n = 0xe0 then ([], .more 2 0 0xa0 0xbf)
  else if n = 0xed then ([], .more 2 0xd 0x80 0x9f)
  else if n < 0xf0 then ([], .more 2 (n - 0xe0) 0x80 0xbf)
  else if n = 0xf0 then ([], .more 3 0 0x90 0xbf)
  else if n < 0xf4 then ([], .more 3 (n - 0xf0) 0x80 0xbf)
  else if n = 0xf4 then ([], .more 3 4 0x80 0x8f)
  else ([none], .lead)

/-- One byte on top of what was waited for. -/
def step : Awaited → UInt8 → List (Option Char) × Awaited
  | .lead, b => start b
  | .more left value low high, b =>
    let n := b.toNat
    if low ≤ n ∧ n ≤ high then
      let value := value * 64 + (n - 0x80)
      if left ≤ 1 then ([some (Char.ofNat value)], .lead) else ([], .more (left - 1) value 0x80 0xbf)
    else
      let (now, next) := start b
      (none :: now, next)

/-- The units of the bytes that follow `awaited`. -/
def units (awaited : Awaited) : List UInt8 → List (Option Char)
  | [] => if awaited = .lead then [] else [none]
  | b :: rest =>
    let (now, next) := step awaited b
    now ++ units next rest

/-- The text of the bytes, or nothing if they are not UTF-8. -/
def decode? (bytes : List UInt8) : Option String :=
  ((units .lead bytes).mapM id).map String.ofList

/-- The text of the bytes, with U+FFFD for each malformed stretch. -/
def decodeLossy (bytes : List UInt8) : String :=
  String.ofList ((units .lead bytes).map (·.getD '\ufffd'))

end Utf8

end PackageRelease
