/-
PackageRelease/Text/Outline.lean

Records, lists and wrapped values laid out as text for an operator to read.

An `Outline` says what is to be shown and not how.  It has two layouts: on one
line (`compact`), and with one field or item to a line, indented by four
spaces, each followed by a comma (`indented`).  Both show the same words in
the same order.
-/
import PackageRelease.Text.Quoted

namespace PackageRelease

/-- What a shown value consists of. -/
inductive Outline where
  /-- A text that stands as it is. -/
  | word (text : String)
  /-- A text between quotes. -/
  | quoted (text : String)
  /-- One value under a name. -/
  | wrapped (name : String) (content : Outline)
  /-- Named fields under a name. -/
  | record (name : String) (fields : List (String × Outline))
  /-- Items in a row. -/
  | items (contents : List Outline)

namespace Outline

/-- A value that may be missing. -/
def optional : Option Outline → Outline
  | none => word "None"
  | some content => wrapped "Some" content

/-! ### On one line -/

mutual

/-- The outline on one line. -/
def compact : Outline → String
  | word text => text
  | quoted text => Quoted.encode text
  | wrapped name content => name ++ "(" ++ content.compact ++ ")"
  | record name fields =>
    name ++ " \x7b " ++ String.intercalate ", " (compactFields fields) ++ " \x7d"
  | items contents => "[" ++ String.intercalate ", " (compactItems contents) ++ "]"

/-- The fields, each on one line behind its name. -/
def compactFields : List (String × Outline) → List String
  | [] => []
  | (name, content) :: rest => (name ++ ": " ++ content.compact) :: compactFields rest

/-- The items, each on one line. -/
def compactItems : List Outline → List String
  | [] => []
  | content :: rest => content.compact :: compactItems rest

end

/-! ### Over several lines -/

/-- The margin of the lines that lie `depth` levels deep. -/
def margin (depth : Nat) : String := String.ofList (List.replicate (4 * depth) ' ')

/-- Lines between two brackets, each with its margin and a comma. -/
def block (depth : Nat) (opening closing : String) (lines : List String) : String :=
  opening ++ "\n" ++ String.join (lines.map fun line => margin (depth + 1) ++ line ++ ",\n") ++
    margin depth ++ closing

mutual

/-- The outline over several lines, as part of a line that lies `depth` levels deep. -/
def indentedAt (depth : Nat) : Outline → String
  | word text => text
  | quoted text => Quoted.encode text
  | wrapped name content =>
    block depth (name ++ "(") ")" [content.indentedAt (depth + 1)]
  | record name fields => block depth (name ++ " \x7b") "\x7d" (indentedFields (depth + 1) fields)
  | items [] => "[]"
  | items contents => block depth "[" "]" (indentedItems (depth + 1) contents)

/-- The fields, each behind its name. -/
def indentedFields (depth : Nat) : List (String × Outline) → List String
  | [] => []
  | (name, content) :: rest =>
    (name ++ ": " ++ content.indentedAt depth) :: indentedFields depth rest

/-- The items of a list. -/
def indentedItems (depth : Nat) : List Outline → List String
  | [] => []
  | content :: rest => content.indentedAt depth :: indentedItems depth rest

end

/-- The outline over several lines. -/
def indented (outline : Outline) : String := outline.indentedAt 0

end Outline

end PackageRelease
