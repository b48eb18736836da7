/-
PackageRelease/Json/Fault.lean

Why a text cannot be read as JSON, and where.

A fault has a cause and a place.  While reading, the place is the text that
was still unread, and how many bytes of it were looked at and rejected; those
bytes count as read.  `Fault.position` turns that into a line and a column:
the line is one more than the number of line feeds read, and the column is the
number of bytes read since the last of them.
-/
import PackageRelease.Text.Quoted
import PackageRelease.Text.Utf8

namespace PackageRelease

namespace Json

/-! ### Causes -/

/-- The two kinds of values that hold other values. -/
inductive Bracket where
  | list
  | object
deriving DecidableEq, Repr

namespace Bracket

/-- The character that ends the value. -/
def closer : Bracket → Char
  | list => ']'
  | object => '}'

end Bracket

/-- What stands in a place where something else is wanted. -/
inductive Found where
  | null
  | boolean (value : Bool)
  | integer (text : String)
  | floating (text : String)
  | string (text : String)
  | sequence
  | map
deriving DecidableEq, Repr

/-- The words for what was found. -/
def Found.text : Found → String
  | null => "null"
  | boolean value => "boolean `" ++ (if value then "true" else "false") ++ "`"
  | integer text => "integer `" ++ text ++ "`"
  | floating text => "floating point `" ++ text ++ "`"
  | string text => "string " ++ Quoted.encode text
  | sequence => "sequence"
  | map => "map"

/-- Why a text cannot be read. -/
inductive Cause where
  /-- The text ends where a value is wanted. -/
  | endInValue
  /-- The text ends inside a string. -/
  | endInString
  /-- The text ends inside a list or an object. -/
  | endInside (bracket : Bracket)
  /-- No value starts here. -/
  | expectedValue
  /-- A wrong letter in one of the words for null and the booleans. -/
  | expectedWord
  | invalidNumber
  | numberOutOfRange
  | keyNotString
  | expectedColon
  | expectedCommaOrEnd (bracket : Bracket)
  | trailingComma
  | trailingCharacters
  | controlCharacter
  | invalidEscape
  /-- Half a surrogate pair without the other half. -/
  | loneSurrogate
  /-- The first half of a surrogate pair that no escape follows. -/
  | endOfEscape
  | invalidType (found : Found) (expected : String)
  | missingField (name : String)
  | duplicateField (name : String)
  | invalidLength (length : Nat) (expected : String)
deriving DecidableEq, Repr

/-- The words for a cause. -/
def Cause.text : Cause → String
  | endInValue => "EOF while parsing a value"
  | endInString => "EOF while parsing a string"
  | endInside .list => "EOF while parsing a list"
  | endInside .object => "EOF while parsing an object"
  | expectedValue => "expected value"
  | expectedWord => "expected ident"
  | invalidNumber => "invalid number"
  | numberOutOfRange => "number out of range"
  | keyNotString => "key must be a string"
  | expectedColon => "expected `:`"
  | expectedCommaOrEnd bracket => "expected `,` or `" ++ bracket.closer.toString ++ "`"
  | trailingComma => "trailing comma"
  | trailingCharacters => "trailing characters"
  | controlCharacter =>
    "control character (\\u0000-\\u001F) found while parsing a string"
  | invalidEscape => "invalid escape"
  | loneSurrogate => "lone leading surrogate in hex escape"
  | endOfEscape => "unexpected end of hex escape"
  | invalidType found expected => "invalid type: " ++ found.text ++ ", expected " ++ expected
  | missingField name => "missing field `" ++ name ++ "`"
  | duplicateField name => "duplicate field `" ++ name ++ "`"
  | invalidLength length expected =>
    "invalid length " ++ toString length ++ ", expected " ++ expected

/-- A computation that succeeds has a first half that succeeds. -/
theorem eq_ok_of_bind_eq_ok {ε α β : Type} {x : Except ε α} {f : α → Except ε β} {b : β}
    (h : (x >>= f) = .ok b) : ∃ a, x = .ok a ∧ f a = .ok b := by
  cases x with
  | error e => cases h
  | ok a => exact ⟨a, rfl, h⟩

/-! ### Places -/

/-- A fault: its cause, the text that was unread, and how many bytes of that text count as
read. -/
structure Fault where
  cause : Cause
  unread : List Char
  rejected : Nat := 0
deriving DecidableEq, Repr

/-- A line, from one, and a column, from zero. -/
structure Position where
  line : Nat
  column : Nat
deriving DecidableEq, Repr

namespace Position

/-- The position after one more byte. -/
def next (p : Position) (b : UInt8) : Position :=
  if b = 10 then ⟨p.line + 1, 0⟩ else ⟨p.line, p.column + 1⟩

/-- The position after the bytes. -/
def after (bytes : List UInt8) : Position := bytes.foldl next ⟨1, 0⟩

end Position

namespace Fault

/-- Where the fault lies in the text that it was found in. -/
def position (fault : Fault) (text : List Char) : Position :=
  let consumed := text.take (text.length - fault.unread.length)
  .after (consumed.flatMap Utf8.encodeChar ++
    (fault.unread.flatMap Utf8.encodeChar).take fault.rejected)

/-- The words for the fault and its place in the text that it was found in. -/
def message (fault : Fault) (text : String) : String :=
  let p := fault.position text.toList
  fault.cause.text ++ " at line " ++ toString p.line ++ " column " ++ toString p.column

end Fault

end Json

end PackageRelease
