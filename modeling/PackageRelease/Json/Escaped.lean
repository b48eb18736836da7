/-
PackageRelease/Json/Escaped.lean

Strings as they stand in a JSON text.

A string is read in two ways.  `readString` yields its characters, and wants
the halves of surrogate pairs to come together; `skipString` only looks for
its end.  Both start behind the opening quote and stop behind the closing one.

What `quote` writes, `readString` reads back (`readString_quote`).
-/
import PackageRelease.Json.Fault
import PackageRelease.Json.Value

namespace PackageRelease

namespace Json

/-! ### Escapes -/

/-- The value of a hexadecimal digit. -/
def hexValue? (c : Char) : Option Nat :=
  let n := c.toNat
  if 48 ≤ n ∧ n ≤ 57 then some (n - 48)
  else if 65 ≤ n ∧ n ≤ 70 then some (n - 55)
  else if 97 ≤ n ∧ n ≤ 102 then some (n - 87)
  else none

theorem hexValue?_hexDigit : ∀ v, v < 16 → hexValue? (hexDigit v) = some v := by decide

/-- The value of four hexadecimal digits. -/
def hexValues? (a b c d : Char) : Option Nat := do
  return (((← hexValue? a) * 16 + (← hexValue? b)) * 16 + (← hexValue? c)) * 16 + (← hexValue? d)

/-- The value of the four hexadecimal digits at the start of a text, and the rest. -/
def readHex (text : List Char) : Except Fault (Nat × List Char) :=
  match text with
  | a :: b :: c :: d :: rest =>
    match hexValues? a b c d with
    | some value => .ok (value, rest)
    | none => .error ⟨.invalidEscape, text, 4⟩
  | _ =>
    if (text.flatMap Utf8.encodeChar).length < 4 then .error ⟨.endInString, [], 0⟩
    else .error ⟨.invalidEscape, text, 4⟩

/-- The character that a letter stands for behind a backslash. -/
def escapeLetter? (c : Char) : Option Char :=
  if c = '"' ∨ c = '\\' ∨ c = '/' then some c
  else if c = 'b' then some '\x08'
  else if c = 'f' then some '\x0c'
  else if c = 'n' then some '\n'
  else if c = 'r' then some '\r'
  else if c = 't' then some '\t'
  else none

/-- The rest of a text behind a wanted character, which stands inside an escape. -/
def expectInEscape (wanted : Char) (text : List Char) : Except Fault (List Char) :=
  match text with
  | [] => .error ⟨.endInString, [], 0⟩
  | c :: rest => if c = wanted then .ok rest else .error ⟨.endOfEscape, c :: rest, 1⟩

/-- The character of an escape, and the rest; the text starts behind the `u`. -/
def readNumbered (text : List Char) : Except Fault (Char × List Char) := do
  let (n, text) ← readHex text
  if 0xdc00 ≤ n ∧ n < 0xe000 then .error ⟨.loneSurrogate, text, 0⟩
  else if n < 0xd800 ∨ 0xe000 ≤ n then return (Char.ofNat n, text)
  else
    let text ← expectInEscape '\\' text
    let text ← expectInEscape 'u' text
    let (m, text) ← readHex text
    if 0xdc00 ≤ m ∧ m < 0xe000 then
      return (Char.ofNat (0x10000 + (n - 0xd800) * 0x400 + (m - 0xdc00)), text)
    else .error ⟨.loneSurrogate, text, 0⟩

/-- The character of an escape, and the rest; the text starts behind the backslash. -/
def readEscape (text : List Char) : Except Fault (Char × List Char) :=
  match text with
  | [] => .error ⟨.endInString, [], 0⟩
  | c :: rest =>
    if c = 'u' then readNumbered rest
    else
      match escapeLetter? c with
      | some meant => .ok (meant, rest)
      | none => .error ⟨.invalidEscape, c :: rest, 1⟩

/-- The rest behind an escape whose meaning is of no interest. -/
def skipEscape (text : List Char) : Except Fault (List Char) :=
  match text with
  | [] => .error ⟨.endInString, [], 0⟩
  | c :: rest =>
    if c = 'u' then (readHex rest).map Prod.snd
    else if (escapeLetter? c).isSome then .ok rest
    else .error ⟨.invalidEscape, c :: rest, 1⟩

/-! ### An escape leaves less than there was -/

theorem readHex_length_lt {text rest : List Char} {n : Nat} (h : readHex text = .ok (n, rest)) :
    rest.length < text.length := by
  unfold readHex at h
  split at h
  · split at h
    · cases h
      simp only [List.length_cons]
      omega
    · cases h
  · split at h <;> cases h

theorem expectInEscape_length_lt {wanted : Char} {text rest : List Char}
    (h : expectInEscape wanted text = .ok rest) : rest.length < text.length := by
  unfold expectInEscape at h
  split at h
  · cases h
  · split at h
    · cases h
      simp
    · cases h

theorem readNumbered_length_lt {text rest : List Char} {c : Char}
    (h : readNumbered text = .ok (c, rest)) : rest.length < text.length := by
  obtain ⟨⟨n, t₁⟩, h₁, h⟩ := eq_ok_of_bind_eq_ok h
  have l₁ := readHex_length_lt h₁
  simp only at h
  split at h
  · cases h
  split at h
  · simp only [pure, Except.pure, Except.ok.injEq, Prod.mk.injEq] at h
    exact h.2 ▸ l₁
  obtain ⟨t₂, h₂, h⟩ := eq_ok_of_bind_eq_ok h
  obtain ⟨t₃, h₃, h⟩ := eq_ok_of_bind_eq_ok h
  obtain ⟨⟨m, t₄⟩, h₄, h⟩ := eq_ok_of_bind_eq_ok h
  have l₂ := expectInEscape_length_lt h₂
  have l₃ := expectInEscape_length_lt h₃
  have l₄ := readHex_length_lt h₄
  simp only at h
  split at h
  · simp only [pure, Except.pure, Except.ok.injEq, Prod.mk.injEq] at h
    rw [← h.2]
    omega
  · cases h

theorem readEscape_length_lt {text rest : List Char} {c : Char}
    (h : readEscape text = .ok (c, rest)) : rest.length < text.length := by
  unfold readEscape at h
  split at h
  · cases h
  split at h
  · exact Nat.lt_succ_of_lt (readNumbered_length_lt h)
  split at h
  · cases h
    simp
  · cases h

theorem skipEscape_length_lt {text rest : List Char} (h : skipEscape text = .ok rest) :
    rest.length < text.length := by
  unfold skipEscape at h
  split at h
  · cases h
  split at h
  · next after _ =>
    cases hx : readHex after with
    | error f => simp [hx, Except.map] at h
    | ok p =>
      simp only [hx, Except.map, Except.ok.injEq] at h
      subst h
      exact Nat.lt_succ_of_lt (readHex_length_lt hx)
  split at h
  · cases h
    simp
  · cases h

/-! ### Strings -/

/-- The characters up to the closing quote, behind those already read, and the rest. -/
def readChars (before : List Char) (text : List Char) : Except Fault (List Char × List Char) :=
  match text with
  | [] => .error ⟨.endInString, [], 0⟩
  | c :: rest =>
    if c = '"' then .ok (before.reverse, rest)
    else if c = '\\' then
      match h : readEscape rest with
      | .error fault => .error fault
      | .ok (meant, left) =>
        have := readEscape_length_lt h
        readChars (meant :: before) left
    else if c.toNat < 0x20 then .error ⟨.controlCharacter, c :: rest, 1⟩
    else readChars (c :: before) rest
termination_by text.length
decreasing_by
  · simp only [List.length_cons]; omega
  · simp

/-- The text of a string, and the rest. -/
def readString (text : List Char) : Except Fault (String × List Char) := do
  let (chars, rest) ← readChars [] text
  return (String.ofList chars, rest)

/-- The rest behind a string whose text is of no interest. -/
def skipString (text : List Char) : Except Fault (List Char) :=
  match text with
  | [] => .error ⟨.endInString, [], 0⟩
  | c :: rest =>
    if c = '"' then .ok rest
    else if c = '\\' then
      match h : skipEscape rest with
      | .error fault => .error fault
      | .ok left =>
        have := skipEscape_length_lt h
        skipString left
    else if c.toNat < 0x20 then .error ⟨.controlCharacter, c :: rest, 0⟩
    else skipString rest
termination_by text.length
decreasing_by
  · simp only [List.length_cons]; omega
  · simp

theorem readChars_length_lt {before text : List Char} {result : List Char × List Char}
    (h : readChars before text = .ok result) : result.2.length < text.length := by
  fun_induction readChars before text with
  | case1 => cases h
  | case2 => cases h; simp
  | case3 => cases h
  | case4 _ _ _ _ _ _ _ ih => exact Nat.lt_trans (ih h) (Nat.lt_succ_of_lt ‹_›)
  | case5 => cases h
  | case6 _ _ _ _ _ _ ih => exact Nat.lt_succ_of_lt (ih h)

theorem readString_length_lt {text rest : List Char} {s : String}
    (h : readString text = .ok (s, rest)) : rest.length < text.length := by
  obtain ⟨result, hr, h⟩ := eq_ok_of_bind_eq_ok h
  cases h
  exact readChars_length_lt hr

theorem skipString_length_lt {text rest : List Char} (h : skipString text = .ok rest) :
    rest.length < text.length := by
  fun_induction skipString text with
  | case1 => cases h
  | case2 => cases h; simp
  | case3 => cases h
  | case4 _ _ _ _ _ ih => exact Nat.lt_trans (ih h) (Nat.lt_succ_of_lt ‹_›)
  | case5 => cases h
  | case6 _ _ _ _ _ ih => exact Nat.lt_succ_of_lt (ih h)

/-! ### What is written is read back -/

theorem readEscape_letter {c meant : Char} (hc : c ≠ 'u') (h : escapeLetter? c = some meant)
    (rest : List Char) : readEscape (c :: rest) = .ok (meant, rest) := by
  simp [readEscape, hc, h]

theorem readChars_escape {c meant : Char} (hc : c ≠ 'u') (h : escapeLetter? c = some meant)
    (before rest : List Char) :
    readChars before ('\\' :: c :: rest) = readChars (meant :: before) rest := by
  rw [readChars]
  simp only [Char.reduceEq, ↓reduceIte]
  split
  · next h' => rw [readEscape_letter hc h] at h'; cases h'
  · next h' => rw [readEscape_letter hc h] at h'; cases h'; rfl

theorem readEscape_low {n : Nat} (hn : n < 0x20) (rest : List Char) :
    readEscape ('u' :: '0' :: '0' :: hexDigit (n / 16) :: hexDigit (n % 16) :: rest) =
      .ok (Char.ofNat n, rest) := by
  have h₁ : hexValue? (hexDigit (n / 16)) = some (n / 16) := hexValue?_hexDigit _ (by omega)
  have h₂ : hexValue? (hexDigit (n % 16)) = some (n % 16) := hexValue?_hexDigit _ (by omega)
  have h₀ : hexValue? '0' = some 0 := by decide
  have hv : n / 16 * 16 + n % 16 = n := by omega
  have h₃ : ¬ (56320 ≤ n) := by omega
  have h₄ : n < 55296 := by omega
  simp [readEscape, readNumbered, readHex, hexValues?, h₀, h₁, h₂, hv, bind, Except.bind, pure,
    Except.pure, h₃, h₄]

theorem readChars_escapeChar (c : Char) (before rest : List Char) :
    readChars before (escapeChar c ++ rest) = readChars (c :: before) rest := by
  unfold escapeChar
  split
  · subst c; exact readChars_escape (by decide) (by decide) _ _
  split
  · subst c; exact readChars_escape (by decide) (by decide) _ _
  split
  · subst c; exact readChars_escape (by decide) (by decide) _ _
  split
  · subst c; exact readChars_escape (by decide) (by decide) _ _
  split
  · subst c; exact readChars_escape (by decide) (by decide) _ _
  split
  · subst c; exact readChars_escape (by decide) (by decide) _ _
  split
  · subst c; exact readChars_escape (by decide) (by decide) _ _
  split
  · next hc =>
    have he := readEscape_low hc rest
    rw [Char.ofNat_toNat] at he
    simp only [List.cons_append, List.nil_append]
    rw [readChars]
    simp only [Char.reduceEq, ↓reduceIte]
    split
    · next h' => rw [he] at h'; cases h'
    · next h' => rw [he] at h'; cases h'; rfl
  · next hq hb _ _ _ _ _ hc =>
    simp only [List.cons_append, List.nil_append]
    rw [readChars]
    simp [hq, hb, hc]

theorem readChars_escapeChars (cs before rest : List Char) :
    readChars before (cs.flatMap escapeChar ++ '"' :: rest) = .ok (before.reverse ++ cs, rest) := by
  induction cs generalizing before with
  | nil => rw [List.flatMap_nil, List.nil_append, readChars]; simp
  | cons c cs ih => rw [List.flatMap_cons, List.append_assoc, readChars_escapeChar, ih]; simp

/-- Behind its opening quote, a written string is read back. -/
theorem readString_quote (text : String) (rest : List Char) :
    readString ((quote text).drop 1 ++ rest) = .ok (text, rest) := by
  simp [readString, quote, readChars_escapeChars, bind, Except.bind, pure, Except.pure]

end Json

end PackageRelease
