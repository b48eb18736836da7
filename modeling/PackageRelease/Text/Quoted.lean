/-
PackageRelease/Text/Quoted.lean

A text between double quotes, in which nothing is invisible.

A quote and a backslash get a backslash in front, line feed, carriage return,
tab and NUL get their letter, and every other character that is not printable
is written as its number, `\u{1b}`.  An apostrophe stands as itself.
-/
import PackageRelease.Text.Printable

namespace PackageRelease

namespace Quoted

/-- The number of a character between braces, in hexadecimal without leading zeros. -/
def numbered (c : Char) : List Char :=
  ['\\', 'u', '{'] ++ Nat.toDigits 16 c.toNat ++ ['}']

/-- One character between the quotes. -/
def encodeChar (c : Char) : List Char :=
  if c = '"' then ['\\', '"']
  else if c = '\\' then ['\\', '\\']
  else if c = '\n' then ['\\', 'n']
  else if c = '\r' then ['\\', 'r']
  else if c = '\t' then ['\\', 't']
  else if c = '\x00' then ['\\', '0']
  else if isPrintable c then [c]
  else numbered c

/-- The text between quotes. -/
def encode (text : String) : String :=
  String.ofList ('"' :: text.toList.flatMap encodeChar ++ ['"'])

end Quoted

end PackageRelease
