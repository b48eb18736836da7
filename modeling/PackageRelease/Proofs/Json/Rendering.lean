/-
PackageRelease/Proofs/Json/Rendering.lean

The texts that a JSON value can be written as.

A value is a list of tokens, and each token can be written in some ways, a
string and a number in many and all others in one.  A text renders a value if
it has the value's tokens, one after the other, with as many blanks as one
likes in front of each and behind the last one.

    value    {"a": [1, true]}
    tokens   {   "a"   :   [   1   ,   true   ]   }

The character that a value starts with tells what kind of value it is
(`StartsWith`), and what is behind an item or a member does not go on with a
number (`Written.endsNumeral_items`, `Written.endsNumeral_members`).
-/
import PackageRelease.Proofs.Json.Record
import PackageRelease.Proofs.Json.Spelling

namespace PackageRelease

namespace Json

/-! ### Tokens -/

/-- A token of a JSON text. -/
inductive Token where
  /-- It can be written in one way. -/
  | fixed (chars : List Char)
  | number (literal : String)
  | string (text : String)

/-- A token that is one character. -/
def mark (c : Char) : Token := .fixed [c]

/-- The ways to write a token. -/
def Token.Form : Token → List Char → Prop
  | .fixed chars, form => form = chars
  | .number literal, form => form = literal.toList ∧ IsNumeral form
  | .string text, form => ∃ body, form = '"' :: (body ++ ['"']) ∧ Spelling text.toList body

/-- What is in front of an item or a member. -/
def separator (first : Bool) : List Token := if first then [] else [mark ',']

mutual

/-- The tokens of a value. -/
def tokens : Json → List Token
  | null => [.fixed ['n', 'u', 'l', 'l']]
  | bool true => [.fixed ['t', 'r', 'u', 'e']]
  | bool false => [.fixed ['f', 'a', 'l', 's', 'e']]
  | number literal => [.number literal]
  | string text => [.string text]
  | array items => mark '[' :: itemTokens true items
  | object members => mark '{' :: memberTokens true members

/-- The tokens of the items of an array, and of its end. -/
def itemTokens (first : Bool) : List Json → List Token
  | [] => [mark ']']
  | item :: items => separator first ++ (tokens item ++ itemTokens false items)

/-- The tokens of the members of an object, and of its end. -/
def memberTokens (first : Bool) : List (String × Json) → List Token
  | [] => [mark '}']
  | (key, value) :: members =>
    separator first ++
      (.string key :: mark ':' :: (tokens value ++ memberTokens false members))

end

/-! ### Texts -/

/-- The tokens are written one after the other, with blanks in front of each. -/
def Written : List Token → List Char → Prop
  | [], text => text = []
  | token :: tokens, text =>
    ∃ blanks form after, text = blanks ++ (form ++ after) ∧ IsSpacing blanks ∧
      token.Form form ∧ Written tokens after

/-- The text is the value, written in one of its ways. -/
def RenderedAs (value : Json) (text : List Char) : Prop :=
  ∃ body blanks, text = body ++ blanks ∧ Written value.tokens body ∧ IsSpacing blanks

variable {tokens tokens' : List Token} {token : Token} {text rest : List Char} {c : Char}

namespace Written

section Forms

variable {blanks : List Char} (spacing : IsSpacing blanks)

include spacing

theorem cons_mark (c : Char) (written : Written tokens text) :
    Written (mark c :: tokens) (blanks ++ ([c] ++ text)) :=
  ⟨blanks, [c], text, rfl, spacing, rfl, written⟩

theorem cons_number {literal : String} (is : IsNumeral literal.toList)
    (written : Written tokens text) :
    Written (.number literal :: tokens) (blanks ++ (literal.toList ++ text)) :=
  ⟨blanks, _, text, rfl, spacing, ⟨rfl, is⟩, written⟩

theorem cons_string {key : String} {body : List Char} (spelling : Spelling key.toList body)
    (written : Written tokens text) :
    Written (.string key :: tokens) (blanks ++ ('"' :: (body ++ ['"']) ++ text)) :=
  ⟨blanks, _, text, rfl, spacing, ⟨body, rfl, spelling⟩, written⟩

end Forms

theorem exists_append (written : Written (tokens ++ tokens') text) :
    ∃ front back, text = front ++ back ∧ Written tokens front ∧ Written tokens' back := by
  induction tokens generalizing text with
  | nil => exact ⟨[], text, rfl, rfl, written⟩
  | cons token tokens ih =>
    obtain ⟨blanks, form, after, rfl, spacing, is_form, written⟩ := written
    obtain ⟨front, back, rfl, written, written'⟩ := ih written
    refine ⟨blanks ++ (form ++ front), back, ?_, ⟨_, _, _, rfl, spacing, is_form, written⟩,
      written'⟩
    simp only [List.append_assoc]

/-- A mark is read behind the blanks in front of it. -/
theorem exists_mark (written : Written (mark c :: tokens) text) (stays : ¬ isSpace c) :
    ∃ after, Written tokens after ∧
      ∀ rest, dropSpaces (text ++ rest) = c :: (after ++ rest) := by
  obtain ⟨blanks, form, after, rfl, spacing, rfl, written⟩ := written
  refine ⟨after, written, fun rest => ?_⟩
  rw [List.append_assoc, List.append_assoc, List.singleton_append,
    dropSpaces_append_cons spacing stays]

/-- A string is read behind the blanks in front of it. -/
theorem exists_string {key : String} (written : Written (.string key :: tokens) text) :
    ∃ body after, Spelling key.toList body ∧ Written tokens after ∧
      ∀ rest, dropSpaces (text ++ rest) = '"' :: (body ++ '"' :: (after ++ rest)) := by
  obtain ⟨blanks, form, after, rfl, spacing, ⟨body, rfl, spelling⟩, written⟩ := written
  refine ⟨body, after, spelling, written, fun rest => ?_⟩
  have eq : blanks ++ ('"' :: (body ++ ['"']) ++ after) ++ rest
      = blanks ++ '"' :: (body ++ '"' :: (after ++ rest)) := by
    simp
  rw [eq, dropSpaces_append_cons spacing (by decide)]

/-- A number in front of a comma or of the end of an array or of an object ends there. -/
theorem endsNumeral (written : Written (mark c :: tokens) text)
    (stop : c = ',' ∨ c = ']' ∨ c = '}') (rest : List Char) : EndsNumeral (text ++ rest) := by
  obtain ⟨blanks, form, after, rfl, spacing, rfl, written⟩ := written
  intro d mem
  rcases blanks with - | ⟨blank, blanks⟩
  · obtain rfl : c = d := Option.some.inj mem
    rcases stop with rfl | rfl | rfl <;> decide
  · obtain rfl : blank = d := Option.some.inj mem
    have space : isSpace blank := spacing blank List.mem_cons_self
    simp only [isSpace, Bool.or_eq_true, beq_iff_eq] at space
    rcases space with ((rfl | rfl) | rfl) | rfl <;> decide

theorem endsNumeral_items {items : List Json} (written : Written (itemTokens false items) text)
    (rest : List Char) : EndsNumeral (text ++ rest) := by
  cases items with
  | nil => exact endsNumeral written (.inr (.inl rfl)) rest
  | cons item items => exact endsNumeral written (.inl rfl) rest

theorem endsNumeral_members {members : List (String × Json)}
    (written : Written (memberTokens false members) text) (rest : List Char) :
    EndsNumeral (text ++ rest) := by
  cases members with
  | nil => exact endsNumeral written (.inr (.inr rfl)) rest
  | cons member members => exact endsNumeral written (.inl rfl) rest

end Written

/-! ### Where a value starts -/

/-- The text of a value that is a string. -/
def text? : Json → Option String
  | string text => some text
  | _ => none

/-- The bracket that a value is in. -/
def bracket? : Json → Option Bracket
  | array _ => some .list
  | object _ => some .object
  | _ => none

/-- The value can start with the character. -/
structure StartsWith (value : Json) (c : Char) : Prop where
  stays : ¬ isSpace c
  other : c ≠ ']'
  opener : opener? c = value.bracket?
  quoted : c = '"' → value.text?.isSome

theorem startsNumeral_apart (starts : startsNumeral c) {d : Char}
    (other : startsNumeral d = false) : c ≠ d := by
  rintro rfl
  rw [starts] at other
  cases other

theorem not_isSpace_of_startsNumeral (starts : startsNumeral c) : ¬ isSpace c := by
  intro space
  simp only [isSpace, Bool.or_eq_true, beq_iff_eq] at space
  rcases space with ((same | same) | same) | same <;>
    exact startsNumeral_apart starts (by decide) same

theorem startsWith_numeral (starts : startsNumeral c) (literal : String) :
    StartsWith (.number literal) c where
  stays := not_isSpace_of_startsNumeral starts
  other := startsNumeral_apart starts (by decide)
  opener := by
    rw [opener?, if_neg (startsNumeral_apart starts (by decide)),
      if_neg (startsNumeral_apart starts (by decide))]
    rfl
  quoted := fun same => absurd same (startsNumeral_apart starts (by decide))

/-- A value has a first token, whose forms the value can start with. -/
theorem exists_first_token (value : Json) :
    ∃ token tokens, value.tokens = token :: tokens ∧
      ∀ form, token.Form form → ∃ c after, form = c :: after ∧ value.StartsWith c := by
  cases value with
  | null | array | object =>
    refine ⟨_, _, rfl, ?_⟩
    rintro form rfl
    exact ⟨_, _, rfl, by decide, by decide, rfl, fun same => absurd same (by decide)⟩
  | bool value =>
    cases value <;>
    · refine ⟨_, _, rfl, ?_⟩
      rintro form rfl
      exact ⟨_, _, rfl, by decide, by decide, rfl, fun same => absurd same (by decide)⟩
  | number literal =>
    refine ⟨_, _, rfl, ?_⟩
    rintro form ⟨rfl, is⟩
    obtain ⟨c, after, eq, starts⟩ := Numeral.exists_startsNumeral is
    exact ⟨c, after, eq, startsWith_numeral starts literal⟩
  | string text =>
    refine ⟨_, _, rfl, ?_⟩
    rintro form ⟨body, rfl, -⟩
    exact ⟨_, _, rfl, by decide, by decide, rfl, fun _ => rfl⟩

/-- Behind the blanks in front of it a value starts. -/
theorem Written.exists_dropSpaces {value : Json} (written : Written value.tokens text) :
    ∃ c left, value.StartsWith c ∧ ∀ rest, dropSpaces (text ++ rest) = c :: (left ++ rest) := by
  obtain ⟨token, tokens, eq, starts⟩ := exists_first_token value
  rw [eq] at written
  obtain ⟨blanks, form, after, rfl, spacing, is_form, -⟩ := written
  obtain ⟨c, more, rfl, start⟩ := starts form is_form
  refine ⟨c, more ++ after, start, fun rest => ?_⟩
  rw [List.append_assoc, List.append_assoc, List.cons_append,
    dropSpaces_append_cons spacing start.stays, List.append_assoc]

end Json

end PackageRelease
