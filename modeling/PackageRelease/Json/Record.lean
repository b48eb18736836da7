/-
PackageRelease/Json/Record.lean

Reading a record whose fields are texts.

A `Shape` names a record and its fields, in order, and says how a value is
made of them.  In a JSON text a record is an object, which may hold further
members, or a list of exactly the fields' values.  An object that lacks a
field is no record, and neither is one that holds a field twice.

    Shape.decode shape text   -- the record, or the words for what is wrong
-/
import PackageRelease.Json.Skip

namespace PackageRelease

namespace Json

/-- A record of texts. -/
structure Shape (α : Type) where
  /-- The name of the record. -/
  name : String
  /-- The names of the fields, in order. -/
  fields : List String
  /-- The value that has the given fields; a field that is asked for may be missing. -/
  make : (String → Except Cause String) → Except Cause α

namespace Shape

variable {α : Type}

/-- The words for the record where something else is found. -/
def words (shape : Shape α) : String := "struct " ++ shape.name

/-- The words for the record and the number of its fields. -/
def wordsWithLength (shape : Shape α) : String :=
  shape.words ++ " with " ++ toString shape.fields.length ++
    (if shape.fields.length = 1 then " element" else " elements")

end Shape

/-! ### Something else than what is wanted -/

/-- What a value is, and the rest behind it; a list or an object is not entered. -/
def findScalar (text : List Char) : Except Fault (Found × List Char) :=
  match text with
  | [] => .error ⟨.endInValue, [], 0⟩
  | c :: rest =>
    if c = 'n' then (skipWord ['u', 'l', 'l'] rest).map (.null, ·)
    else if c = 't' then (skipWord ['r', 'u', 'e'] rest).map (.boolean true, ·)
    else if c = 'f' then (skipWord ['a', 'l', 's', 'e'] rest).map (.boolean false, ·)
    else if c = '"' then (readString rest).map fun (s, left) => (.string s, left)
    else if startsNumeral c then do
      let (numeral, left) ← Numeral.read .endInValue (c :: rest)
      match numeral.found with
      | .ok found => .ok (found, left)
      | .error digits => .error ⟨.numberOutOfRange, digits ++ left, 0⟩
    else
      match opener? c with
      | some .list => .ok (.sequence, c :: rest)
      | some .object => .ok (.map, c :: rest)
      | none => .error ⟨.expectedValue, c :: rest, 1⟩

/-- The fault of a value that is not what is wanted. -/
def wrongType (expected : String) (text : List Char) : Fault :=
  match findScalar text with
  | .ok (found, rest) => ⟨.invalidType found expected, rest, 0⟩
  | .error fault => fault

/-- The text of a value that is a string, and the rest. -/
def readText (text : List Char) : Except Fault (String × List Char) :=
  match dropSpaces text with
  | [] => .error ⟨.endInValue, [], 0⟩
  | c :: rest => if c = '"' then readString rest else .error (wrongType "a string" (c :: rest))

theorem readText_length_lt {text rest : List Char} {s : String}
    (h : readText text = .ok (s, rest)) : rest.length < text.length := by
  unfold readText at h
  split at h
  · cases h
  · next hd =>
    split at h
    · exact Nat.lt_trans (readString_length_lt h) (length_lt_of_dropSpaces hd)
    · cases h

/-! ### From an object -/

/-- Whether there is another member, and the rest: behind the quote of its key, or behind the
end of the object. -/
def nextKey (first : Bool) (text : List Char) : Except Fault (Bool × List Char) :=
  match dropSpaces text with
  | [] => .error ⟨.endInside .object, [], 0⟩
  | c :: rest =>
    if c = '}' then .ok (false, rest)
    else if first then
      if c = '"' then .ok (true, rest) else .error ⟨.keyNotString, c :: rest, 1⟩
    else if c = ',' then
      match dropSpaces rest with
      | [] => .error ⟨.endInValue, [], 0⟩
      | d :: left =>
        if d = '"' then .ok (true, left)
        else if d = '}' then .error ⟨.trailingComma, d :: left, 1⟩
        else .error ⟨.keyNotString, d :: left, 1⟩
    else .error ⟨.expectedCommaOrEnd .object, c :: rest, 1⟩

/-- The rest behind blanks and the end of an object, if it is the end. -/
def closeObject (text : List Char) : List Char :=
  match dropSpaces text with
  | '}' :: rest => rest
  | rest => rest

theorem nextKey_length_lt {first more : Bool} {text rest : List Char}
    (h : nextKey first text = .ok (more, rest)) : rest.length < text.length := by
  unfold nextKey at h
  split at h
  · cases h
  next hd =>
  have hlt := length_lt_of_dropSpaces hd
  split at h
  · cases h
    exact hlt
  split at h
  · split at h
    · cases h
      exact hlt
    · cases h
  split at h
  · split at h
    · cases h
    next hd' =>
    have hlt' := length_lt_of_dropSpaces hd'
    split at h
    · cases h
      omega
    · split at h <;> cases h
  · cases h

/-- The fields in the members of an object, behind those already read, and the rest. -/
def readMembers (fields : List String) (first : Bool) (before : List (String × String))
    (text : List Char) : Except Fault (List (String × String) × List Char) :=
  match h : nextKey first text with
  | .error fault => .error fault
  | .ok (false, rest) => .ok (before, rest)
  | .ok (true, rest) =>
    have := nextKey_length_lt h
    match h : readString rest with
    | .error fault => .error fault
    | .ok (key, rest) =>
      have := readString_length_lt h
      if fields.contains key then
        if (before.lookup key).isSome then .error ⟨.duplicateField key, closeObject rest, 0⟩
        else
          match h : skipColon rest with
          | .error fault => .error fault
          | .ok rest =>
            have := skipColon_length_lt h
            match h : readText rest with
            | .error fault => .error fault
            | .ok (value, rest) =>
              have := readText_length_lt h
              readMembers fields false ((key, value) :: before) rest
      else
        match h : skipColon rest with
        | .error fault => .error fault
        | .ok rest =>
          have := skipColon_length_lt h
          match h : skip rest with
          | .error fault => .error fault
          | .ok rest =>
            have := skipWithin_length_le h
            readMembers fields false before rest
termination_by text.length

/-! ### From a list -/

/-- Whether there is another item, and the rest: where the item starts, or behind the end of
the list. -/
def nextItem (first : Bool) (text : List Char) : Except Fault (Bool × List Char) :=
  match dropSpaces text with
  | [] => .error ⟨.endInside .list, [], 0⟩
  | c :: rest =>
    if c = ']' then .ok (false, rest)
    else if first then .ok (true, c :: rest)
    else if c = ',' then
      match dropSpaces rest with
      | [] => .error ⟨.endInValue, [], 0⟩
      | d :: left =>
        if d = ']' then .error ⟨.trailingComma, d :: left, 1⟩ else .ok (true, d :: left)
    else .error ⟨.expectedCommaOrEnd .list, c :: rest, 1⟩

/-- The rest behind the end of a list that has all its items. -/
def closeList (text : List Char) : Except Fault (List Char) :=
  match dropSpaces text with
  | [] => .error ⟨.endInside .list, [], 0⟩
  | c :: rest =>
    if c = ']' then .ok rest
    else if c = ',' then
      match dropSpaces rest with
      | [] => .error ⟨.trailingCharacters, [], 0⟩
      | d :: left =>
        .error ⟨if d = ']' then .trailingComma else .trailingCharacters, d :: left, 1⟩
    else .error ⟨.trailingCharacters, c :: rest, 1⟩

/-- The values of the fields in the items of a list, behind `count` items already read, and
the rest. -/
def readItems (expected : String) (count : Nat) (fields : List String) (text : List Char) :
    Except Fault (List (String × String) × List Char) :=
  match fields with
  | [] => do return ([], ← closeList text)
  | field :: fields => do
    match ← nextItem (count == 0) text with
    | (false, rest) => .error ⟨.invalidLength count expected, rest, 0⟩
    | (true, rest) =>
      let (value, rest) ← readText rest
      let (values, rest) ← readItems expected (count + 1) fields rest
      return ((field, value) :: values, rest)

/-! ### Records -/

namespace Shape

variable {α : Type}

/-- The record that has the given fields; `rest` is the text behind them. -/
def assemble (shape : Shape α) (values : List (String × String)) (rest : List Char) :
    Except Fault α :=
  let field (name : String) : Except Cause String :=
    match values.lookup name with
    | some value => .ok value
    | none => .error (.missingField name)
  (shape.make field).mapError (⟨·, rest, 0⟩)

/-- The record at the start of a text, and the rest. -/
def read (shape : Shape α) (text : List Char) : Except Fault (α × List Char) :=
  match dropSpaces text with
  | [] => .error ⟨.endInValue, [], 0⟩
  | c :: rest =>
    match opener? c with
    | some .object => do
      let (values, rest) ← readMembers shape.fields true [] rest
      return (← shape.assemble values rest, rest)
    | some .list => do
      let (values, rest) ← readItems shape.wordsWithLength 0 shape.fields rest
      return (← shape.assemble values rest, rest)
    | none => .error (wrongType shape.words (c :: rest))

/-- The record that a text consists of. -/
def readAll (shape : Shape α) (text : List Char) : Except Fault α := do
  let (value, rest) ← shape.read text
  match dropSpaces rest with
  | [] => return value
  | c :: rest => .error ⟨.trailingCharacters, c :: rest, 1⟩

/-- The record that a text consists of, or the words for what is wrong with it. -/
def decode (shape : Shape α) (text : String) : Except String α :=
  (shape.readAll text.toList).mapError (·.message text)

end Shape

end Json

end PackageRelease
