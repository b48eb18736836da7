/-
PackageRelease/Proofs/Json/Spelling.lean

The ways to write a string and a number in a JSON text.

    character       itself, if it is no quote, no backslash and not below U+0020
                    \" \\ \/ \b \f \n \r \t
                    \uXXXX, as one unit of UTF-16 or as two
    number          sign whole fraction exponent

The readers take each of them: `readChars` has the characters that are meant
(`readChars_spelled`), `skipString` comes to the end of a string
(`skipString_spelled`), and `Numeral.read` to the end of a number that nothing
behind it goes on with (`Numeral.read_numeral`).
-/
import Mathlib.Data.List.Basic
import PackageRelease.Proofs.Json.Step

namespace PackageRelease

namespace Json

/-! ### Hexadecimal digits -/

/-- The digit of a value, in lower or in upper case. -/
def IsHexDigit (value : Nat) (digit : Char) : Prop :=
  value < 16 ∧ (digit = hexDigit value ∨ digit = (hexDigit value).toUpper)

instance (value : Nat) (digit : Char) : Decidable (IsHexDigit value digit) := by
  unfold IsHexDigit
  infer_instance

/-- Four digits and the number that they make. -/
inductive IsHex : Nat → List Char → Prop
  | digits {v₁ v₂ v₃ v₄ : Nat} {d₁ d₂ d₃ d₄ : Char} (first : IsHexDigit v₁ d₁)
      (second : IsHexDigit v₂ d₂) (third : IsHexDigit v₃ d₃) (fourth : IsHexDigit v₄ d₄) :
      IsHex (((v₁ * 16 + v₂) * 16 + v₃) * 16 + v₄) [d₁, d₂, d₃, d₄]

theorem hexValue?_toUpper : ∀ v, v < 16 → hexValue? (hexDigit v).toUpper = some v := by decide

theorem IsHexDigit.hexValue? {value : Nat} {digit : Char} (is : IsHexDigit value digit) :
    hexValue? digit = some value := by
  obtain ⟨small, rfl | rfl⟩ := is
  · exact hexValue?_hexDigit value small
  · exact hexValue?_toUpper value small

theorem readHex_append {n : Nat} {digits : List Char} (hex : IsHex n digits) (rest : List Char) :
    readHex (digits ++ rest) = .ok (n, rest) := by
  obtain ⟨first, second, third, fourth⟩ := hex
  simp only [List.cons_append, List.nil_append, readHex, hexValues?, first.hexValue?,
    second.hexValue?, third.hexValue?, fourth.hexValue?]
  rfl

/-! ### Characters -/

/-- The letters that stand for a character behind a backslash. -/
def letters : List (Char × Char) :=
  [('"', '"'), ('\\', '\\'), ('/', '/'), ('b', '\x08'), ('f', '\x0c'), ('n', '\n'), ('r', '\r'),
    ('t', '\t')]

/-- The ways to write a character behind a backslash. -/
inductive Escaped : Char → List Char → Prop
  | letter {c letter : Char} (stands : (letter, c) ∈ letters) : Escaped c [letter]
  | unit {c : Char} {digits : List Char} (hex : IsHex c.toNat digits) : Escaped c ('u' :: digits)
  | pair {c : Char} {high low : List Char} (wide : 0x10000 ≤ c.toNat)
      (high_hex : IsHex (0xd800 + (c.toNat - 0x10000) / 0x400) high)
      (low_hex : IsHex (0xdc00 + (c.toNat - 0x10000) % 0x400) low) :
      Escaped c ('u' :: (high ++ '\\' :: 'u' :: low))

/-- The ways to write a character in a string. -/
inductive Spelled : Char → List Char → Prop
  | plain {c : Char} (unquoted : c ≠ '"') (unescaped : c ≠ '\\') (printed : 0x20 ≤ c.toNat) :
      Spelled c [c]
  | escaped {c : Char} {form : List Char} (escaped : Escaped c form) : Spelled c ('\\' :: form)

/-- The ways to write characters in a string. -/
inductive Spelling : List Char → List Char → Prop
  | nil : Spelling [] []
  | cons {c : Char} {cs form forms : List Char} (spelled : Spelled c form)
      (spelling : Spelling cs forms) : Spelling (c :: cs) (form ++ forms)

theorem escapeLetter?_of_mem : ∀ p ∈ letters, p.1 ≠ 'u' ∧ escapeLetter? p.1 = some p.2 := by
  decide

/-- A number that is a character is not half of a surrogate pair. -/
theorem toNat_lt_or_le (c : Char) : c.toNat < 0xd800 ∨ 0xe000 ≤ c.toNat ∧ c.toNat < 0x110000 :=
  c.valid.imp id fun ⟨lower, upper⟩ => ⟨lower, upper⟩

variable {c : Char} {form rest : List Char}

theorem readNumbered_unit {digits : List Char} (hex : IsHex c.toNat digits) (rest : List Char) :
    readNumbered (digits ++ rest) = .ok (c, rest) := by
  have whole := toNat_lt_or_le c
  rw [readNumbered, readHex_append hex, ok_bind]
  simp only
  rw [if_neg (by omega), if_pos (by omega), Char.ofNat_toNat]
  rfl

theorem readNumbered_pair {high low : List Char} (wide : 0x10000 ≤ c.toNat)
    (high_hex : IsHex (0xd800 + (c.toNat - 0x10000) / 0x400) high)
    (low_hex : IsHex (0xdc00 + (c.toNat - 0x10000) % 0x400) low) (rest : List Char) :
    readNumbered (high ++ '\\' :: 'u' :: (low ++ rest)) = .ok (c, rest) := by
  have whole := toNat_lt_or_le c
  -- ten bits of the number are in each half
  have joined : 0x10000 + (0xd800 + (c.toNat - 0x10000) / 0x400 - 0xd800) * 0x400
      + (0xdc00 + (c.toNat - 0x10000) % 0x400 - 0xdc00) = c.toNat := by
    omega
  have backslash (text : List Char) : expectInEscape '\\' ('\\' :: text) = .ok text := rfl
  have letter (text : List Char) : expectInEscape 'u' ('u' :: text) = .ok text := rfl
  rw [readNumbered, readHex_append high_hex, ok_bind]
  simp only
  rw [if_neg (by omega), if_neg (by omega), backslash, ok_bind, letter, ok_bind,
    readHex_append low_hex, ok_bind]
  simp only
  rw [if_pos (by omega), joined, Char.ofNat_toNat]
  rfl

theorem readEscape_escaped (escaped : Escaped c form) (rest : List Char) :
    readEscape (form ++ rest) = .ok (c, rest) := by
  cases escaped with
  | letter stands =>
    obtain ⟨other, meant⟩ := escapeLetter?_of_mem _ stands
    exact readEscape_letter other meant rest
  | unit hex => exact readNumbered_unit hex rest
  | @pair high low wide high_hex low_hex =>
    have eq : 'u' :: (high ++ '\\' :: 'u' :: low) ++ rest
        = 'u' :: (high ++ '\\' :: 'u' :: (low ++ rest)) := by
      simp
    rw [eq]
    exact readNumbered_pair wide high_hex low_hex rest

/-- A written character is read. -/
theorem readChars_spelled (spelled : Spelled c form) (before rest : List Char) :
    readChars before (form ++ rest) = readChars (c :: before) rest := by
  cases spelled with
  | plain unquoted unescaped printed =>
    rw [List.singleton_append, readChars_cons, if_neg unquoted, if_neg unescaped,
      if_neg (Nat.not_lt.2 printed)]
  | escaped escaped =>
    rw [List.cons_append, readChars_cons, if_neg (by decide), if_pos rfl,
      readEscape_escaped escaped, ok_bind]

theorem skipEscape_unit {n : Nat} {digits : List Char} (hex : IsHex n digits) (rest : List Char) :
    skipEscape ('u' :: (digits ++ rest)) = .ok rest := by
  rw [skipEscape, if_pos rfl, readHex_append hex]
  rfl

theorem skipString_backslash (rest : List Char) :
    skipString ('\\' :: rest) = skipEscape rest >>= skipString := by
  rw [skipString_cons, if_neg (by decide), if_pos rfl]

/-- A written character is passed over. -/
theorem skipString_spelled (spelled : Spelled c form) (rest : List Char) :
    skipString (form ++ rest) = skipString rest := by
  cases spelled with
  | plain unquoted unescaped printed =>
    rw [List.singleton_append, skipString_cons, if_neg unquoted, if_neg unescaped,
      if_neg (Nat.not_lt.2 printed)]
  | escaped escaped =>
    rw [List.cons_append, skipString_backslash]
    cases escaped with
    | letter stands =>
      obtain ⟨other, meant⟩ := escapeLetter?_of_mem _ stands
      dsimp only at other meant
      rw [List.singleton_append, skipEscape, if_neg other, meant, Option.isSome_some, if_pos rfl,
        ok_bind]
    | unit hex => rw [List.cons_append, skipEscape_unit hex, ok_bind]
    | @pair high low wide high_hex low_hex =>
      -- the two halves are passed over as if each were a character
      rw [List.cons_append, List.append_assoc, skipEscape_unit high_hex, ok_bind,
        List.cons_append, skipString_backslash, List.cons_append, skipEscape_unit low_hex, ok_bind]

/-! ### Strings -/

variable {cs body : List Char}

/-- Characters that need no escape can be written as they are. -/
theorem spelling_self (plain : cs.all fun c => c ≠ '"' ∧ c ≠ '\\' ∧ 0x20 ≤ c.toNat) :
    Spelling cs cs := by
  induction cs with
  | nil => exact .nil
  | cons c cs ih =>
    rw [List.all_cons, Bool.and_eq_true, decide_eq_true_eq] at plain
    obtain ⟨⟨unquoted, unescaped, printed⟩, plain⟩ := plain
    exact .cons (.plain unquoted unescaped printed) (ih plain)

theorem readChars_spelling (spelling : Spelling cs body) (before rest : List Char) :
    readChars before (body ++ '"' :: rest) = .ok (before.reverse ++ cs, rest) := by
  induction spelling generalizing before with
  | nil => rw [List.nil_append, readChars_cons, if_pos rfl, List.append_nil]
  | cons spelled spelling ih =>
    rw [List.append_assoc, readChars_spelled spelled, ih, List.reverse_cons, List.append_assoc,
      List.singleton_append]

/-- A written string is read, behind its opening quote. -/
theorem readString_spelling {text : String} (spelling : Spelling text.toList body)
    (rest : List Char) : readString (body ++ '"' :: rest) = .ok (text, rest) := by
  rw [readString, readChars_spelling spelling, ok_bind]
  simp only [List.reverse_nil, List.nil_append, String.ofList_toList]
  rfl

/-- A written string is passed over, behind its opening quote. -/
theorem skipString_spelling (spelling : Spelling cs body) (rest : List Char) :
    skipString (body ++ '"' :: rest) = .ok rest := by
  induction spelling with
  | nil => rw [List.nil_append, skipString_cons, if_pos rfl]
  | cons spelled spelling ih => rw [List.append_assoc, skipString_spelled spelled, ih]

/-! ### Numbers -/

/-- Digits, at least one. -/
def IsDigits (digits : List Char) : Prop := digits ≠ [] ∧ ∀ d ∈ digits, d.isDigit

instance (digits : List Char) : Decidable (IsDigits digits) :=
  decidable_of_iff (digits ≠ [] ∧ digits.all Char.isDigit)
    (and_congr_right fun _ => List.all_eq_true)

/-- The whole part of a number: a zero alone, or digits that start with another one. -/
inductive IsWhole : List Char → Prop
  | zero : IsWhole ['0']
  | digits {digits : List Char} (are : IsDigits digits) (nonzero : digits.head? ≠ some '0') :
      IsWhole digits

/-- The fraction of a number, if it has one. -/
inductive IsFraction : List Char → Prop
  | none : IsFraction []
  | digits {digits : List Char} (are : IsDigits digits) : IsFraction ('.' :: digits)

/-- The exponent of a number, if it has one. -/
inductive IsExponent : List Char → Prop
  | none : IsExponent []
  | digits {letter : Char} {sign digits : List Char} (is : letter = 'e' ∨ letter = 'E')
      (signed : sign = [] ∨ sign = ['+'] ∨ sign = ['-']) (are : IsDigits digits) :
      IsExponent (letter :: (sign ++ digits))

/-- A number as it may be written. -/
inductive IsNumeral : List Char → Prop
  | parts {sign whole fraction exponent : List Char} (signed : sign = [] ∨ sign = ['-'])
      (is_whole : IsWhole whole) (is_fraction : IsFraction fraction)
      (is_exponent : IsExponent exponent) : IsNumeral (sign ++ (whole ++ (fraction ++ exponent)))

/-- No digit is at the start of the text. -/
def NoDigit (text : List Char) : Prop := ∀ c ∈ text.head?, ¬ c.isDigit

/-- A number does not go on with the text. -/
def EndsNumeral (text : List Char) : Prop :=
  ∀ c ∈ text.head?, ¬ c.isDigit ∧ c ≠ '.' ∧ c ≠ 'e' ∧ c ≠ 'E'

namespace Numeral

variable {atEnd : Cause} {digits whole fraction exponent : List Char}

theorem digits_append (are : ∀ d ∈ digits, d.isDigit) (stops : NoDigit rest) :
    Numeral.digits (digits ++ rest) = (digits, rest) := by
  rw [Numeral.digits, List.takeWhile_append_of_pos are, List.dropWhile_append_of_pos are]
  cases rest with
  | nil => simp
  | cons c rest =>
    have stop : ¬ c.isDigit := stops c rfl
    rw [List.takeWhile_cons_of_neg stop, List.dropWhile_cons_of_neg stop, List.append_nil]

theorem readWhole_append (is : IsWhole whole) (stops : NoDigit rest) :
    readWhole atEnd (whole ++ rest) = .ok (whole, rest) := by
  cases is with
  | zero =>
    have stop : ¬ rest.head?.any Char.isDigit := by
      cases rest with
      | nil => decide
      | cons c rest => exact stops c rfl
    rw [List.singleton_append, readWhole, if_neg stop]
  | digits are nonzero =>
    obtain ⟨nonempty, are⟩ := are
    obtain ⟨d, digits, rfl⟩ := List.exists_cons_of_ne_nil nonempty
    have other : d ≠ '0' := fun same => nonzero (congrArg some same)
    rw [readWhole]
    · rw [digits_append are stops]
    · intro after eq
      exact other (List.cons.inj eq).1

theorem readFraction_append (is : IsFraction fraction) (stops : NoDigit rest)
    (undotted : fraction = [] → '.' ∉ rest.head?) :
    ∃ found, readFraction atEnd (fraction ++ rest) = .ok (found, rest) := by
  cases is with
  | none =>
    refine ⟨[], ?_⟩
    rw [List.nil_append, readFraction]
    intro after eq
    exact undotted rfl (eq ▸ rfl)
  | digits are =>
    obtain ⟨nonempty, are⟩ := are
    obtain ⟨d, digits, rfl⟩ := List.exists_cons_of_ne_nil nonempty
    refine ⟨d :: digits, ?_⟩
    rw [List.cons_append, readFraction, digits_append are stops]

theorem exponentSign_append {sign : List Char} (signed : sign = [] ∨ sign = ['+'] ∨ sign = ['-'])
    (are : IsDigits digits) (rest : List Char) :
    (exponentSign (sign ++ (digits ++ rest))).2 = digits ++ rest := by
  rcases signed with rfl | rfl | rfl
  · obtain ⟨nonempty, are⟩ := are
    obtain ⟨d, digits, rfl⟩ := List.exists_cons_of_ne_nil nonempty
    have digit : d.isDigit := are d List.mem_cons_self
    rw [List.nil_append, exponentSign]
    · rintro after eq
      rw [(List.cons.inj eq).1] at digit
      exact absurd digit (by decide)
    · rintro after eq
      rw [(List.cons.inj eq).1] at digit
      exact absurd digit (by decide)
  · rfl
  · rfl

theorem readExponent_append (is : IsExponent exponent) (ends : EndsNumeral rest) :
    ∃ found, readExponent atEnd (exponent ++ rest) = .ok (found, rest) := by
  cases is with
  | none =>
    refine ⟨none, ?_⟩
    cases rest with
    | nil => rfl
    | cons c rest =>
      obtain ⟨-, -, lower, upper⟩ := ends c rfl
      rw [List.nil_append, readExponent, if_neg (not_or.2 ⟨lower, upper⟩)]
  | @digits letter sign digits is signed are =>
    have stops : NoDigit rest := fun c mem => (ends c mem).1
    have eq : letter :: (sign ++ digits) ++ rest = letter :: (sign ++ (digits ++ rest)) := by
      simp
    rw [eq, readExponent, if_pos is, exponentSign_append signed are, digits_append are.2 stops]
    obtain ⟨d, digits, rfl⟩ := List.exists_cons_of_ne_nil are.1
    exact ⟨_, rfl⟩

/-- Neither the whole part of a number nor its fraction goes on with the exponent. -/
theorem head_exponent (is : IsExponent exponent) (ends : EndsNumeral rest) :
    ∀ c ∈ (exponent ++ rest).head?, ¬ c.isDigit ∧ c ≠ '.' := by
  cases is with
  | none => exact fun c mem => ⟨(ends c mem).1, (ends c mem).2.1⟩
  | digits is signed are =>
    intro c mem
    obtain rfl : _ = c := Option.some.inj mem
    rcases is with rfl | rfl
    · decide
    · decide

theorem noDigit_fraction (is : IsFraction fraction) (stops : NoDigit rest) :
    NoDigit (fraction ++ rest) := by
  cases is with
  | none => exact stops
  | digits are =>
    intro c mem
    obtain rfl : '.' = c := Option.some.inj mem
    decide

theorem exists_digit_whole (is : IsWhole whole) : ∃ d digits, whole = d :: digits ∧ d.isDigit := by
  cases is with
  | zero => exact ⟨'0', [], rfl, by decide⟩
  | digits are nonzero =>
    obtain ⟨d, digits, rfl⟩ := List.exists_cons_of_ne_nil are.1
    exact ⟨d, digits, rfl, are.2 d List.mem_cons_self⟩

/-- A number starts with its sign or with a digit. -/
theorem exists_startsNumeral {chars : List Char} (is : IsNumeral chars) :
    ∃ c after, chars = c :: after ∧ startsNumeral c := by
  obtain @⟨sign, whole, fraction, exponent, signed, is_whole, -, -⟩ := is
  rcases signed with rfl | rfl
  · obtain ⟨d, digits, rfl, digit⟩ := exists_digit_whole is_whole
    exact ⟨d, digits ++ (fraction ++ exponent), rfl, by simp [startsNumeral, digit]⟩
  · exact ⟨'-', whole ++ (fraction ++ exponent), rfl, by decide⟩

/-- The sign of a number is taken, if it has one. -/
theorem drop_sign {sign : List Char} (signed : sign = [] ∨ sign = ['-']) (is : IsWhole whole)
    (rest : List Char) :
    (if (sign ++ (whole ++ rest)).head? = some '-' then (sign ++ (whole ++ rest)).drop 1
      else sign ++ (whole ++ rest)) = whole ++ rest := by
  rcases signed with rfl | rfl
  · obtain ⟨d, digits, rfl, digit⟩ := exists_digit_whole is
    refine if_neg fun minus => ?_
    obtain rfl : d = '-' := Option.some.inj minus
    exact absurd digit (by decide)
  · exact if_pos rfl

/-- A written number is read if it ends where it is written. -/
theorem read_numeral {chars : List Char} (is : IsNumeral chars) (ends : EndsNumeral rest) :
    ∃ numeral, Numeral.read atEnd (chars ++ rest) = .ok (numeral, rest) := by
  obtain @⟨sign, whole, fraction, exponent, signed, is_whole, is_fraction, is_exponent⟩ := is
  have behind := head_exponent is_exponent ends
  have stops : NoDigit (exponent ++ rest) := fun c mem => (behind c mem).1
  have undotted : '.' ∉ (exponent ++ rest).head? := fun mem => (behind '.' mem).2 rfl
  have whole_read := @readWhole_append _ atEnd _ is_whole (noDigit_fraction is_fraction stops)
  obtain ⟨found, fraction_read⟩ :=
    @readFraction_append _ atEnd _ is_fraction stops fun _ => undotted
  obtain ⟨found', exponent_read⟩ := @readExponent_append _ atEnd _ is_exponent ends
  refine ⟨⟨(sign ++ (whole ++ (fraction ++ (exponent ++ rest)))).head? = some '-', whole, found,
    found'⟩, ?_⟩
  have eq : sign ++ (whole ++ (fraction ++ exponent)) ++ rest
      = sign ++ (whole ++ (fraction ++ (exponent ++ rest))) := by
    simp only [List.append_assoc]
  rw [eq, Numeral.read]
  simp only
  rw [drop_sign signed is_whole, whole_read, ok_bind]
  simp only
  rw [fraction_read, ok_bind]
  simp only
  rw [exponent_read, ok_bind]
  rfl

end Numeral

end Json

end PackageRelease
