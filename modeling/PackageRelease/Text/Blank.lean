/-
PackageRelease/Text/Blank.lean

White space in the wide sense: the characters with the Unicode property
`White_Space`, and texts freed of them at both ends.

A trimmed text neither starts nor ends with such a character
(`head?_trimmed`, `getLast?_trimmed`), and trimming takes away nothing else.
-/

namespace PackageRelease

/-! ### The property -/

/-- The character has the Unicode property `White_Space`. -/
def isBlank (c : Char) : Bool :=
  let n := c.toNat
  (0x09 ≤ n && n ≤ 0x0d) || n == 0x20 || n == 0x85 || n == 0xa0 || n == 0x1680 ||
    (0x2000 ≤ n && n ≤ 0x200a) || n == 0x2028 || n == 0x2029 || n == 0x202f ||
    n == 0x205f || n == 0x3000

/-! ### Trimming -/

/-- The characters between the first and the last one that is not blank. -/
def trimmed (cs : List Char) : List Char :=
  ((cs.dropWhile isBlank).reverse.dropWhile isBlank).reverse

/-- The text without the white space at its two ends. -/
def trim (text : String) : String := String.ofList (trimmed text.toList)

@[simp] theorem toList_trim (text : String) : (trim text).toList = trimmed text.toList := by
  simp [trim]

theorem dropWhile_head?_ne {p : Char → Bool} (cs : List Char) {c : Char}
    (h : (cs.dropWhile p).head? = some c) : p c = false := by
  induction cs with
  | nil => simp at h
  | cons a r ih =>
    by_cases ha : p a
    · rw [List.dropWhile_cons_of_pos ha] at h
      exact ih h
    · rw [List.dropWhile_cons_of_neg ha] at h
      simp only [List.head?_cons, Option.some.injEq] at h
      subst h
      simpa using ha

/-- A trimmed text does not start with white space. -/
theorem head?_trimmed {cs : List Char} {c : Char} (h : (trimmed cs).head? = some c) :
    isBlank c = false := by
  have hp : trimmed cs <+: cs.dropWhile isBlank := by
    rw [← List.reverse_suffix, trimmed, List.reverse_reverse]
    exact List.dropWhile_suffix _
  obtain ⟨rest, hrest⟩ := hp
  refine dropWhile_head?_ne cs (c := c) ?_
  rw [← hrest, List.head?_append, h]
  rfl

/-- A trimmed text does not end in white space. -/
theorem getLast?_trimmed {cs : List Char} {c : Char} (h : (trimmed cs).getLast? = some c) :
    isBlank c = false := by
  rw [trimmed, List.getLast?_reverse] at h
  exact dropWhile_head?_ne _ h

end PackageRelease
