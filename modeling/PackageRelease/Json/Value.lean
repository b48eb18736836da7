/-
PackageRelease/Json/Value.lean

JSON values and the two ways they are written.

Members of an object keep their order, and a key may come twice.  A number is
its literal.  `compact` writes no blanks at all; `pretty` puts every item and
member on a line of its own, two spaces deeper than the bracket around it.

In a string only what must be escaped is escaped: the quote, the backslash and
the characters below U+0020, five of which have a letter of their own.
-/

namespace PackageRelease

/-- A JSON value. -/
inductive Json where
  | null
  | bool (value : Bool)
  | number (literal : String)
  | string (text : String)
  | array (items : List Json)
  | object (members : List (String × Json))

namespace Json

/-! ### Strings -/

/-- The digit of a four-bit value in hexadecimal. -/
def hexDigit (v : Nat) : Char :=
  if v < 10 then Char.ofNat (48 + v) else Char.ofNat (87 + v)

/-- One character between the quotes of a string. -/
def escapeChar (c : Char) : List Char :=
  if c = '"' then ['\\', '"']
  else if c = '\\' then ['\\', '\\']
  else if c = '\x08' then ['\\', 'b']
  else if c = '\x0c' then ['\\', 'f']
  else if c = '\n' then ['\\', 'n']
  else if c = '\r' then ['\\', 'r']
  else if c = '\t' then ['\\', 't']
  else if c.toNat < 0x20 then
    ['\\', 'u', '0', '0', hexDigit (c.toNat / 16), hexDigit (c.toNat % 16)]
  else [c]

/-- The characters of a text between quotes. -/
def quote (text : String) : List Char :=
  '"' :: text.toList.flatMap escapeChar ++ ['"']

/-! ### Without blanks -/

mutual

/-- The characters of a value without blanks. -/
def compactChars : Json → List Char
  | null => "null".toList
  | bool true => "true".toList
  | bool false => "false".toList
  | number literal => literal.toList
  | string text => quote text
  | array items => '[' :: List.intercalate [','] (compactItems items) ++ [']']
  | object members => '{' :: List.intercalate [','] (compactMembers members) ++ ['}']

/-- The characters of each item. -/
def compactItems : List Json → List (List Char)
  | [] => []
  | value :: rest => compactChars value :: compactItems rest

/-- The characters of each member. -/
def compactMembers : List (String × Json) → List (List Char)
  | [] => []
  | (key, value) :: rest => (quote key ++ ':' :: compactChars value) :: compactMembers rest

end

/-- The value written without blanks. -/
def compact (value : Json) : String := String.ofList value.compactChars

/-! ### On lines -/

/-- A line break and the margin of the lines that lie `depth` brackets deep. -/
def newline (depth : Nat) : List Char := '\n' :: List.replicate (2 * depth) ' '

/-- Lines within a bracket that lies `depth` brackets deep. -/
def block (depth : Nat) (opening closing : Char) (lines : List (List Char)) : List Char :=
  if lines.isEmpty then [opening, closing]
  else
    opening :: newline (depth + 1) ++ List.intercalate (',' :: newline (depth + 1)) lines ++
      newline depth ++ [closing]

mutual

/-- The characters of a value on lines that lie `depth` brackets deep. -/
def prettyChars (depth : Nat) : Json → List Char
  | array items => block depth '[' ']' (prettyItems (depth + 1) items)
  | object members => block depth '{' '}' (prettyMembers (depth + 1) members)
  | value => compactChars value

/-- The characters of each item. -/
def prettyItems (depth : Nat) : List Json → List (List Char)
  | [] => []
  | value :: rest => prettyChars depth value :: prettyItems depth rest

/-- The characters of each member. -/
def prettyMembers (depth : Nat) : List (String × Json) → List (List Char)
  | [] => []
  | (key, value) :: rest =>
    (quote key ++ ':' :: ' ' :: prettyChars depth value) :: prettyMembers depth rest

end

/-- The value written on lines. -/
def pretty (value : Json) : String := String.ofList (value.prettyChars 0)

example : (object [("a", array [null, bool true]), ("b", object [])]).compact =
    "\x7b\"a\":[null,true],\"b\":\x7b\x7d\x7d" := by decide +kernel

end Json

end PackageRelease
