/-
PackageRelease/Text/Charset.lean

Bytes of a stated character set as text.

Three sets are known here: UTF-8, UTF-16 in either byte order, and the one-byte
set windows-1252, which also answers to the names of Latin-1 and ASCII.  There
are many more, such as Shift_JIS and GBK; how their bytes are read comes in as
`Decoders`.  A byte-order mark at the start speaks louder than the stated set
and is itself no part of the text.  What does not fit its set becomes U+FFFD,
so that every list of bytes has a text.

The set is stated by the `charset` parameter of a media type, such as

    text/plain; charset="latin1"

and is UTF-8 where the media type is absent, malformed or silent, or names a
set that nobody knows.
-/
import PackageRelease.Text.Blank
import PackageRelease.Text.Utf8

namespace PackageRelease

/-- A set of characters and their bytes. -/
inductive Charset where
  | utf8
  | utf16LittleEndian
  | utf16BigEndian
  | windows1252
  /-- A set that is known by its name only. -/
  | other (name : String)
deriving Repr, DecidableEq

namespace Charset

/-! ### Names -/

/-- The names that UTF-8 answers to. -/
def utf8Names : List String :=
  ["utf-8", "utf8", "unicode-1-1-utf-8", "unicode11utf8", "unicode20utf8", "x-unicode20utf8"]

/-- The names that windows-1252 answers to. -/
def windows1252Names : List String :=
  ["windows-1252", "iso-8859-1", "latin1", "us-ascii", "ascii", "cp1252", "x-cp1252", "l1",
    "iso8859-1", "iso88591", "iso_8859-1", "iso_8859-1:1987", "iso-ir-100", "csisolatin1",
    "cp819", "ibm819", "ansi_x3.4-1968"]

/-- The names that little-endian UTF-16 answers to. -/
def utf16LittleEndianNames : List String :=
  ["utf-16le", "utf-16", "unicode", "csunicode", "iso-10646-ucs-2", "ucs-2", "unicodefeff"]

/-- The names that big-endian UTF-16 answers to. -/
def utf16BigEndianNames : List String := ["utf-16be", "unicodefffe"]

/-- The set of a name. -/
def ofName (name : String) : Charset :=
  let name := String.ofList ((trimmed name.toList).map Char.toLower)
  if utf8Names.contains name then utf8
  else if windows1252Names.contains name then windows1252
  else if utf16LittleEndianNames.contains name then utf16LittleEndian
  else if utf16BigEndianNames.contains name then utf16BigEndian
  else other name

/-! ### Media types -/

/-- The character may stand in a word of a media type. -/
def isWordChar (c : Char) : Bool :=
  c.isAlphanum || "!#$%&'*+-.^_|~".toList.contains c || c.toNat = 0x60

/-- The character parts the parameters of a media type. -/
def isParting (c : Char) : Bool := c = ' ' || c = ';'

/-- A word may end in front of the text. -/
def endsWord (text : List Char) : Bool := text.head?.all isParting

/-- The word at the start of a text, and what is behind it. -/
def word? (text : List Char) : Option (List Char × List Char) :=
  if (text.takeWhile isWordChar).isEmpty then none
  else some (text.takeWhile isWordChar, text.dropWhile isWordChar)

/-- The value at the start of a text, a word or a text in quotes, and what is behind it. -/
def value? : List Char → Option (List Char × List Char)
  | '"' :: rest =>
    match rest.dropWhile (· ≠ '"') with
    | [] => none
    | _ :: behind => some (rest.takeWhile (· ≠ '"'), behind)
  | text => (word? text).filter fun (_, behind) => endsWord behind

/-- The parameter at the start of a text, and what is behind it. -/
def parameter? (text : List Char) : Option ((String × String) × List Char) := do
  match ← word? text with
  | (name, '=' :: rest) =>
    let (value, behind) ← value? rest
    return ((.ofList name, .ofList value), behind)
  | _ => none

/-- The parameters of a media type as names and values; each takes up more than one character, so
there are no more of them than the first argument says. -/
def parameters? : Nat → List Char → Option (List (String × String))
  | 0, _ => none
  | limit + 1, text =>
    match text.dropWhile isParting with
    | [] => some []
    | text => do
      let (parameter, behind) ← parameter? text
      return parameter :: (← parameters? limit behind)

/-- The character may stand in a header that is read as a text. -/
def isHeaderChar (c : Char) : Bool := (0x20 ≤ c.toNat && c.toNat < 0x7f) || c = '\t'

/-- The parameters of a media type, if it is well formed. -/
def mediaParameters? (mediaType : String) : Option (List (String × String)) := do
  let text := mediaType.toList
  if text.all isHeaderChar then
    match ← word? text with
    | (_, '/' :: rest) =>
      let (_, behind) ← (word? rest).filter fun (_, behind) => endsWord behind
      parameters? (behind.length + 1) behind
    | _ => none
  else none

/-- A parameter of the name states a set. -/
def isCharsetName (name : String) : Bool := name.toList.map Char.toLower = "charset".toList

/-- The set that a media type states. -/
def ofMediaType (mediaType : Option String) : Charset :=
  let parameters := (mediaType.bind mediaParameters?).getD []
  match parameters.find? fun p => isCharsetName p.1 with
  | some (_, name) => ofName name
  | none => utf8

/-! ### Reading -/

/-- The characters of windows-1252 from 0x80 to 0x9f; a byte without one stands for its number. -/
def windows1252Upper : Array Nat := #[
  0x20ac, 0x81, 0x201a, 0x192, 0x201e, 0x2026, 0x2020, 0x2021, 0x2c6, 0x2030, 0x160, 0x2039,
  0x152, 0x8d, 0x17d, 0x8f, 0x90, 0x2018, 0x2019, 0x201c, 0x201d, 0x2022, 0x2013, 0x2014,
  0x2dc, 0x2122, 0x161, 0x203a, 0x153, 0x9d, 0x17e, 0x178]

/-- The character of a byte in windows-1252. -/
def windows1252Char (b : UInt8) : Char :=
  let n := b.toNat
  if 0x80 ≤ n ∧ n < 0xa0 then Char.ofNat (windows1252Upper.getD (n - 0x80) n) else Char.ofNat n

/-- The two-byte units of the bytes, and whether one byte is left over. -/
def pairs (bigEndian : Bool) : List UInt8 → List Nat × Bool
  | [] => ([], false)
  | [_] => ([], true)
  | a :: b :: rest =>
    let (units, left) := pairs bigEndian rest
    let unit := if bigEndian then a.toNat * 256 + b.toNat else b.toNat * 256 + a.toNat
    (unit :: units, left)

/-- The unit is the first half of a surrogate pair. -/
def isHighSurrogate (n : Nat) : Bool := 0xd800 ≤ n && n < 0xdc00

/-- The unit is the second half of a surrogate pair. -/
def isLowSurrogate (n : Nat) : Bool := 0xdc00 ≤ n && n < 0xe000

/-- The characters of the units; half a pair and a byte left over become U+FFFD. -/
def ofUnits (left : Bool) : List Nat → List Char
  | [] => if left then ['\ufffd'] else []
  | [n] =>
    if isHighSurrogate n then ['\ufffd']
    else (if isLowSurrogate n then '\ufffd' else Char.ofNat n) :: ofUnits left []
  | n :: m :: rest =>
    if isHighSurrogate n then
      if isLowSurrogate m then
        Char.ofNat (0x10000 + (n - 0xd800) * 0x400 + (m - 0xdc00)) :: ofUnits left rest
      else '\ufffd' :: ofUnits left (m :: rest)
    else (if isLowSurrogate n then '\ufffd' else Char.ofNat n) :: ofUnits left (m :: rest)

/-- How bytes are read in the sets that are known by their names only; none for a name that nobody
knows. -/
abbrev Decoders := (name : String) → Option (List UInt8 → String)

/-- The text of bytes that carry no byte-order mark.  A set that nobody knows counts as UTF-8. -/
def decodeUnmarked (decoders : Decoders) (set : Charset) (bytes : List UInt8) : String :=
  match set with
  | utf8 => Utf8.decodeLossy bytes
  | windows1252 => String.ofList (bytes.map windows1252Char)
  | utf16LittleEndian => let (units, left) := pairs false bytes; String.ofList (ofUnits left units)
  | utf16BigEndian => let (units, left) := pairs true bytes; String.ofList (ofUnits left units)
  | other name => (decoders name).getD Utf8.decodeLossy bytes

/-- The text of the bytes in the set, or in the set that their byte-order mark shows. -/
def decode (decoders : Decoders) (set : Charset) (bytes : List UInt8) : String :=
  match bytes with
  | 0xef :: 0xbb :: 0xbf :: rest => decodeUnmarked decoders utf8 rest
  | 0xff :: 0xfe :: rest => decodeUnmarked decoders utf16LittleEndian rest
  | 0xfe :: 0xff :: rest => decodeUnmarked decoders utf16BigEndian rest
  | bytes => decodeUnmarked decoders set bytes

example : ofMediaType (some "text/plain; charset=\"LATIN1\"") = windows1252 := by decide +kernel
example :
    decode (fun _ => none) utf16LittleEndian [0x3d, 0xd8, 0x00, 0xde, 0x61] = "😀\ufffd" := by
  decide +kernel

end Charset

end PackageRelease
