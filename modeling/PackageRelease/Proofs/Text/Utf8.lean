/-
PackageRelease/Proofs/Text/Utf8.lean

Bytes are read as the text whose bytes they are.

A scalar value has one form of one to four bytes:

    0xxxxxxx   110xxxxx 10xxxxxx   1110xxxx 10xxxxxx 10xxxxxx
    11110xxx 10xxxxxx 10xxxxxx 10xxxxxx

of which none is longer than it has to be (`Form`).  The bytes of a character
are the form of its value, and a reader yields a character exactly where the
form of its value stands (`units_eq_cons_iff`).  So bytes are read as a text
exactly if they are the bytes of that text (`decode?_eq_some_iff`), and a
lenient reading starts with a character exactly if the bytes do.  A byte below
0x80 stands for its character wherever it stands, in a malformed stretch too
(`mem_decodeLossy_of_ascii`).

Where no character stands there is a malformed stretch: as many bytes as some
character begins with, or else one byte (`IsMalformed`).  A lenient reading has
U+FFFD for each of them (`decodeLossy_eq_iff`).
-/
import Mathlib.Data.List.Basic
import PackageRelease.Text.Utf8

namespace PackageRelease

theorem toUInt8_eq {n : Nat} {b : UInt8} (h : n = b.toNat) : n.toUInt8 = b := by
  rw [h]
  exact UInt8.ofNat_toNat

namespace Utf8

variable {c : Char} {n : Nat} {a b : UInt8} {bytes rest : List UInt8}

/-! ### Values and bytes -/

theorem toNat_lt (c : Char) : c.toNat < 0x110000 := by
  rcases c.valid with low | ⟨-, high⟩
  · exact Nat.lt_trans low (by decide)
  · exact high

theorem toNat_ofNat (h : n < 0xd800 ∨ 0xdfff < n ∧ n < 0x110000) : (Char.ofNat n).toNat = n := by
  rw [Char.ofNat, dif_pos h]
  rfl

theorem toNat_toUInt8 (h : n < 256) : n.toUInt8.toNat = n := UInt8.toNat_ofNat_of_lt h

/-- The bytes of a character are those that the standard library gives it. -/
theorem encodeChar_eq (c : Char) : encodeChar c = String.utf8EncodeChar c := by
  have bounded := toNat_lt c
  have same : c.val.toNat = c.toNat := rfl
  unfold encodeChar String.utf8EncodeChar
  simp only [same]
  generalize c.toNat = n at bounded
  by_cases one : n < 0x80
  · rw [if_pos one, if_pos (by omega)]
  by_cases two : n < 0x800
  · rw [if_neg one, if_pos two, if_neg (by omega), if_pos (by omega), Nat.add_comm 0xc0,
      Nat.add_comm 0x80, Nat.mod_eq_of_lt (by omega : n / 64 < 32)]
  by_cases three : n < 0x10000
  · rw [if_neg one, if_neg two, if_pos three, if_neg (by omega), if_neg (by omega),
      if_pos (by omega), Nat.mod_eq_of_lt (by omega : n / 4096 < 16)]
    simp only [Nat.add_comm 0xe0, Nat.add_comm 0x80]
  · rw [if_neg one, if_neg two, if_neg three, if_neg (by omega), if_neg (by omega),
      if_neg (by omega), Nat.mod_eq_of_lt (by omega : n / 262144 < 8)]
    simp only [Nat.add_comm 0xf0, Nat.add_comm 0x80]

theorem encode_eq_toUTF8 (text : String) : encode text = text.toUTF8.data.toList := by
  rw [String.toUTF8_eq_toByteArray, ← String.utf8Encode_toList, List.utf8Encode,
    List.toList_data_toByteArray]
  exact List.flatMap_congr fun c _ => encodeChar_eq c

/-! ### Forms -/

/-- The byte goes on with a form. -/
def Continues (b : UInt8) : Prop := 0x80 ≤ b.toNat ∧ b.toNat ≤ 0xbf

/-- The bytes are the form of the scalar value. -/
inductive Form : Nat → List UInt8 → Prop
  | one {n : Nat} {a : UInt8} (value : n = a.toNat) (short : n < 0x80) : Form n [a]
  | two {n : Nat} {a b : UInt8} (value : n = (a.toNat - 0xc0) * 64 + (b.toNat - 0x80))
      (first : 0xc0 ≤ a.toNat ∧ a.toNat < 0xe0) (second : Continues b) (long : 0x80 ≤ n) :
      Form n [a, b]
  | three {n : Nat} {a b d : UInt8}
      (value : n = ((a.toNat - 0xe0) * 64 + (b.toNat - 0x80)) * 64 + (d.toNat - 0x80))
      (first : 0xe0 ≤ a.toNat ∧ a.toNat < 0xf0) (second : Continues b) (third : Continues d)
      (long : 0x800 ≤ n) (scalar : n < 0xd800 ∨ 0xdfff < n) : Form n [a, b, d]
  | four {n : Nat} {a b d e : UInt8}
      (value : n = (((a.toNat - 0xf0) * 64 + (b.toNat - 0x80)) * 64 + (d.toNat - 0x80)) * 64
        + (e.toNat - 0x80))
      (first : 0xf0 ≤ a.toNat) (second : Continues b) (third : Continues d) (fourth : Continues e)
      (long : 0x10000 ≤ n) (scalar : n < 0x110000) : Form n [a, b, d, e]

/-- The bytes of a character are the form of its value. -/
theorem form_encodeChar (c : Char) : Form c.toNat (encodeChar c) := by
  have bounded := toNat_lt c
  have scalar : c.toNat < 0xd800 ∨ 0xdfff < c.toNat := c.valid.imp id And.left
  have last : (0x80 + c.toNat % 64).toUInt8.toNat = 0x80 + c.toNat % 64 :=
    toNat_toUInt8 (by omega)
  have before : (0x80 + c.toNat / 64 % 64).toUInt8.toNat = 0x80 + c.toNat / 64 % 64 :=
    toNat_toUInt8 (by omega)
  simp only [encodeChar]
  -- one range of values after the other, from the shortest form to the longest
  split
  · have only : c.toNat.toUInt8.toNat = c.toNat := toNat_toUInt8 (by omega)
    exact .one only.symm ‹_›
  split
  · have lead : (0xc0 + c.toNat / 64).toUInt8.toNat = 0xc0 + c.toNat / 64 :=
      toNat_toUInt8 (by omega)
    exact .two (by omega) (by omega) ⟨by omega, by omega⟩ (by omega)
  split
  · have lead : (0xe0 + c.toNat / 4096).toUInt8.toNat = 0xe0 + c.toNat / 4096 :=
      toNat_toUInt8 (by omega)
    exact .three (by omega) (by omega) ⟨by omega, by omega⟩ ⟨by omega, by omega⟩ (by omega) scalar
  · have lead : (0xf0 + c.toNat / 262144).toUInt8.toNat = 0xf0 + c.toNat / 262144 :=
      toNat_toUInt8 (by omega)
    have second : (0x80 + c.toNat / 4096 % 64).toUInt8.toNat = 0x80 + c.toNat / 4096 % 64 :=
      toNat_toUInt8 (by omega)
    exact .four (by omega) (by omega) ⟨by omega, by omega⟩ ⟨by omega, by omega⟩
      ⟨by omega, by omega⟩ (by omega) bounded

/-- A form is the bytes of the character with the value. -/
theorem Form.encodeChar_eq (form : Form n bytes) : encodeChar (Char.ofNat n) = bytes := by
  cases form with
  | @one a value short =>
    rw [encodeChar, toNat_ofNat (by omega), if_pos short, toUInt8_eq value]
  | @two a b value first second long =>
    obtain ⟨low, high⟩ := second
    rw [encodeChar, toNat_ofNat (by omega), if_neg (by omega), if_pos (by omega),
      toUInt8_eq (b := a) (by omega), toUInt8_eq (b := b) (by omega)]
  | @three a b d value first second third long scalar =>
    obtain ⟨⟨low, high⟩, low', high'⟩ := And.intro second third
    rw [encodeChar, toNat_ofNat (by omega), if_neg (by omega), if_neg (by omega),
      if_pos (by omega), toUInt8_eq (b := a) (by omega), toUInt8_eq (b := b) (by omega),
      toUInt8_eq (b := d) (by omega)]
  | @four a b d e value first second third fourth long scalar =>
    obtain ⟨⟨low, high⟩, ⟨low', high'⟩, low'', high''⟩ := And.intro second (And.intro third fourth)
    rw [encodeChar, toNat_ofNat (by omega), if_neg (by omega), if_neg (by omega),
      if_neg (by omega), toUInt8_eq (b := a) (by omega), toUInt8_eq (b := b) (by omega),
      toUInt8_eq (b := d) (by omega), toUInt8_eq (b := e) (by omega)]

/-! ### One byte of a reader -/

theorem start_one (h : a.toNat < 0x80) : start a = ([some (Char.ofNat a.toNat)], .lead) := by
  simp only [start]
  rw [if_pos h]

theorem start_two (h : 0xc2 ≤ a.toNat ∧ a.toNat < 0xe0) :
    start a = ([], .more 1 (a.toNat - 0xc0) 0x80 0xbf) := by
  simp only [start]
  rw [if_neg (by omega), if_neg (by omega), if_pos h.2]

/-- What the first of three bytes leads to: the second byte lets no over-long form pass, and no
surrogate. -/
theorem start_three (h : 0xe0 ≤ a.toNat ∧ a.toNat < 0xf0) :
    ∃ low high, start a = ([], .more 2 (a.toNat - 0xe0) low high) ∧
      ∀ m, low ≤ m ∧ m ≤ high ↔ 0x80 ≤ m ∧ m ≤ 0xbf ∧
        0x20 ≤ (a.toNat - 0xe0) * 64 + (m - 0x80) ∧
        ¬ (0x360 ≤ (a.toNat - 0xe0) * 64 + (m - 0x80) ∧
          (a.toNat - 0xe0) * 64 + (m - 0x80) < 0x380) := by
  simp only [start]
  rw [if_neg (by omega), if_neg (by omega), if_neg (by omega)]
  by_cases first : a.toNat = 0xe0
  · rw [if_pos first, first]
    exact ⟨_, _, rfl, fun m => by omega⟩
  by_cases surrogates : a.toNat = 0xed
  · rw [if_neg first, if_pos surrogates, surrogates]
    exact ⟨_, _, rfl, fun m => by omega⟩
  · rw [if_neg first, if_neg surrogates, if_pos h.2]
    exact ⟨_, _, rfl, fun m => by omega⟩

/-- What the first of four bytes leads to: the second byte lets no over-long form pass, and nothing
past U+10FFFF. -/
theorem start_four (h : 0xf0 ≤ a.toNat ∧ a.toNat < 0xf5) :
    ∃ low high, start a = ([], .more 3 (a.toNat - 0xf0) low high) ∧
      ∀ m, low ≤ m ∧ m ≤ high ↔ 0x80 ≤ m ∧ m ≤ 0xbf ∧
        0x10 ≤ (a.toNat - 0xf0) * 64 + (m - 0x80) ∧
        (a.toNat - 0xf0) * 64 + (m - 0x80) < 0x110 := by
  simp only [start]
  rw [if_neg (by omega), if_neg (by omega), if_neg (by omega), if_neg (by omega),
    if_neg (by omega), if_neg (by omega)]
  by_cases first : a.toNat = 0xf0
  · rw [if_pos first, first]
    exact ⟨_, _, rfl, fun m => by omega⟩
  by_cases last : a.toNat = 0xf4
  · rw [if_neg first, if_neg (by omega), if_pos last, last]
    exact ⟨_, _, rfl, fun m => by omega⟩
  · rw [if_neg first, if_pos (by omega)]
    exact ⟨_, _, rfl, fun m => by omega⟩

/-- No form starts with any other byte. -/
theorem start_stray (h : 0x80 ≤ a.toNat ∧ a.toNat < 0xc2 ∨ 0xf5 ≤ a.toNat) :
    start a = ([none], .lead) := by
  simp only [start]
  rcases h with h | h
  · rw [if_neg (by omega), if_pos h.2]
  · rw [if_neg (by omega), if_neg (by omega), if_neg (by omega), if_neg (by omega),
      if_neg (by omega), if_neg (by omega), if_neg (by omega), if_neg (by omega),
      if_neg (by omega)]

/-- In the middle of a character no byte below 0x80 is waited for. -/
def Awaited.SkipsAscii : Awaited → Prop
  | .lead => True
  | .more _ _ low _ => 0x80 ≤ low

/-- What a byte can lead to: it yields something, or more is waited for; and what is waited for
is no byte below 0x80. -/
inductive Led : List (Option Char) × Awaited → Prop
  | yields {unit : Option Char} {now : List (Option Char)} {next : Awaited}
      (skips : next.SkipsAscii) : Led (unit :: now, next)
  | waits {left value low high : Nat} (above : 0x80 ≤ low) : Led ([], .more left value low high)

section

variable {result : List (Option Char) × Awaited}

theorem Led.skipsAscii (led : Led result) : result.2.SkipsAscii := by
  cases led with
  | yields skips => exact skips
  | waits above => exact above

/-- A byte that yields nothing leaves something to be waited for. -/
theorem Led.snd_ne_lead (led : Led result) (yielded : result.1 = []) : result.2 ≠ .lead := by
  cases led with
  | yields skips => cases yielded
  | waits above => nofun

end

/-- What a first byte leads to: its character, something malformed, or more is waited for. -/
inductive Started : List (Option Char) × Awaited → Prop
  | yields {c : Char} : Started ([some c], .lead)
  | stray : Started ([none], .lead)
  | waits {k value low high : Nat} (above : 0x80 ≤ low) (nonempty : low ≤ high)
      (below : high ≤ 0xbf) : Started ([], .more (k + 1) value low high)

theorem started (b : UInt8) : Started (start b) := by
  simp only [start]
  split_ifs
  exacts [.yields, .stray, .waits (by decide) (by decide) (by decide),
    .waits (by decide) (by decide) (by decide), .waits (by decide) (by decide) (by decide),
    .waits (by decide) (by decide) (by decide), .waits (by decide) (by decide) (by decide),
    .waits (by decide) (by decide) (by decide), .waits (by decide) (by decide) (by decide), .stray]

theorem led_start (b : UInt8) : Led (start b) := by
  have first := started b
  generalize start b = result at first
  cases first with
  | yields => exact .yields trivial
  | stray => exact .yields trivial
  | waits above => exact .waits above

theorem led_step (awaited : Awaited) (b : UInt8) : Led (step awaited b) := by
  cases awaited with
  | lead => exact led_start b
  | more left value low high =>
    simp only [step]
    split
    · split
      · exact .yields trivial
      · exact .waits (Nat.le_refl _)
    · -- the byte does not fit and is read afresh
      exact .yields (led_start b).skipsAscii

section

variable {k value low high : Nat}

theorem units_more_last (h : low ≤ b.toNat ∧ b.toNat ≤ high) :
    units (.more 1 value low high) (b :: rest)
      = some (Char.ofNat (value * 64 + (b.toNat - 0x80))) :: units .lead rest := by
  simp [units, step, h]

theorem units_more_next (h : low ≤ b.toNat ∧ b.toNat ≤ high) :
    units (.more (k + 2) value low high) (b :: rest)
      = units (.more (k + 1) (value * 64 + (b.toNat - 0x80)) 0x80 0xbf) rest := by
  simp [units, step, h]

/-- Where more bytes are waited for, a character comes only of a byte that fits. -/
theorem exists_of_units_more {us : List (Option Char)}
    (h : units (.more k value low high) bytes = some c :: us) :
    ∃ b rest, bytes = b :: rest ∧ low ≤ b.toNat ∧ b.toNat ≤ high := by
  rcases bytes with - | ⟨b, rest⟩
  · simp [units] at h
  by_cases fits : low ≤ b.toNat ∧ b.toNat ≤ high
  · exact ⟨b, rest, rfl, fits⟩
  · simp [units, step, fits] at h

theorem eq_of_units_more_last {us : List (Option Char)} (fits : low ≤ b.toNat ∧ b.toNat ≤ high)
    (h : units (.more 1 value low high) (b :: rest) = some c :: us) :
    c = Char.ofNat (value * 64 + (b.toNat - 0x80)) := by
  rw [units_more_last fits] at h
  exact (Option.some.inj (List.cons.inj h).1).symm

end

/-! ### One character of a reader -/

/-- A reader that stands before a form yields the character with its value. -/
theorem Form.units_append (form : Form n bytes) :
    units .lead (bytes ++ rest) = some (Char.ofNat n) :: units .lead rest := by
  cases form with
  | @one a value short =>
    show (start a).1 ++ units (start a).2 rest = _
    rw [start_one (value ▸ short), value]
    rfl
  | @two a b value first second long =>
    obtain ⟨low, high⟩ := second
    show (start a).1 ++ units (start a).2 (b :: rest) = _
    rw [start_two (by omega), value]
    exact units_more_last ⟨low, high⟩
  | @three a b d value first second third long scalar =>
    obtain ⟨low, high, started, fits⟩ := start_three first
    obtain ⟨⟨above, below⟩, above', below'⟩ := And.intro second third
    show (start a).1 ++ units (start a).2 (b :: d :: rest) = _
    rw [started, value]
    refine (units_more_next (k := 0) ((fits _).2 (by omega))).trans ?_
    exact units_more_last ⟨above', below'⟩
  | @four a b d e value first second third fourth long scalar =>
    obtain ⟨⟨above, below⟩, ⟨above', below'⟩, above'', below''⟩ :=
      And.intro second (And.intro third fourth)
    obtain ⟨low, high, started, fits⟩ := start_four (a := a) ⟨first, by omega⟩
    show (start a).1 ++ units (start a).2 (b :: d :: e :: rest) = _
    rw [started, value]
    refine (units_more_next (k := 1) ((fits _).2 (by omega))).trans ?_
    refine (units_more_next (k := 0) ⟨above', below'⟩).trans ?_
    exact units_more_last ⟨above'', below''⟩

/-- Where a reader yields a character, its form stands. -/
theorem exists_form_of_units {us : List (Option Char)} (h : units .lead bytes = some c :: us) :
    ∃ n form rest, Form n form ∧ bytes = form ++ rest ∧ c = Char.ofNat n := by
  rcases bytes with - | ⟨a, rest⟩
  · cases h
  change (start a).1 ++ units (start a).2 rest = _ at h
  have ranges : a.toNat < 0x80 ∨ (0x80 ≤ a.toNat ∧ a.toNat < 0xc2 ∨ 0xf5 ≤ a.toNat) ∨
      (0xc2 ≤ a.toNat ∧ a.toNat < 0xe0) ∨ (0xe0 ≤ a.toNat ∧ a.toNat < 0xf0) ∨
      (0xf0 ≤ a.toNat ∧ a.toNat < 0xf5) := by
    omega
  -- behind a first byte every further one has to be there and to fit
  rcases ranges with one | stray | two | three | four
  · rw [start_one one] at h
    cases h
    exact ⟨_, [a], rest, .one rfl one, rfl, rfl⟩
  · rw [start_stray stray] at h
    cases h
  · rw [start_two two] at h
    obtain ⟨b, rest, rfl, second⟩ := exists_of_units_more h
    exact ⟨_, [a, b], rest, .two rfl (by omega) second (by omega), rfl,
      eq_of_units_more_last second h⟩
  · obtain ⟨low, high, started, fits⟩ := start_three three
    rw [started] at h
    obtain ⟨b, rest, rfl, second⟩ := exists_of_units_more h
    replace h := (units_more_next (k := 0) second).symm.trans h
    obtain ⟨d, rest, rfl, third⟩ := exists_of_units_more h
    have ⟨above, below, long, scalar⟩ := (fits _).1 second
    exact ⟨_, [a, b, d], rest, .three rfl three ⟨above, below⟩ third (by omega) (by omega), rfl,
      eq_of_units_more_last third h⟩
  · obtain ⟨low, high, started, fits⟩ := start_four four
    rw [started] at h
    obtain ⟨b, rest, rfl, second⟩ := exists_of_units_more h
    replace h := (units_more_next (k := 1) second).symm.trans h
    obtain ⟨d, rest, rfl, third⟩ := exists_of_units_more h
    replace h := (units_more_next (k := 0) third).symm.trans h
    obtain ⟨e, rest, rfl, fourth⟩ := exists_of_units_more h
    have ⟨above, below, long, scalar⟩ := (fits _).1 second
    exact ⟨_, [a, b, d, e], rest, .four rfl four.1 ⟨above, below⟩ third fourth (by omega) (by omega),
      rfl, eq_of_units_more_last fourth h⟩

theorem units_encodeChar_append (c : Char) (rest : List UInt8) :
    units .lead (encodeChar c ++ rest) = some c :: units .lead rest := by
  rw [(form_encodeChar c).units_append, Char.ofNat_toNat]

/-- A reader yields a character exactly where the bytes of the character stand. -/
theorem units_eq_cons_iff {us : List (Option Char)} :
    units .lead bytes = some c :: us ↔
      ∃ rest, bytes = encodeChar c ++ rest ∧ units .lead rest = us := by
  constructor
  · intro h
    obtain ⟨n, form, rest, formed, rfl, rfl⟩ := exists_form_of_units h
    refine ⟨rest, by rw [formed.encodeChar_eq], ?_⟩
    exact (List.cons.inj (formed.units_append.symm.trans h)).2
  · rintro ⟨rest, rfl, rfl⟩
    exact units_encodeChar_append c rest

/-! ### Texts -/

theorem units_eq_nil_iff {awaited : Awaited} :
    units awaited bytes = [] ↔ awaited = .lead ∧ bytes = [] := by
  induction bytes generalizing awaited with
  | nil => simp [units]
  | cons b rest ih =>
    show (step awaited b).1 ++ units (step awaited b).2 rest = [] ↔ _
    rw [List.append_eq_nil_iff, ih]
    constructor
    · rintro ⟨yielded, next, -⟩
      exact absurd next ((led_step awaited b).snd_ne_lead yielded)
    · rintro ⟨-, none⟩
      cases none

theorem units_eq_map_iff {cs : List Char} :
    units .lead bytes = cs.map some ↔ bytes = cs.flatMap encodeChar := by
  induction cs generalizing bytes with
  | nil => simp [units_eq_nil_iff]
  | cons c cs ih =>
    rw [List.map_cons, units_eq_cons_iff, List.flatMap_cons]
    constructor
    · rintro ⟨rest, rfl, read⟩
      rw [ih.1 read]
    · rintro rfl
      exact ⟨_, rfl, ih.2 rfl⟩

theorem mapM_id_eq_some_iff {us : List (Option Char)} {cs : List Char} :
    us.mapM id = some cs ↔ us = cs.map some := by
  induction us generalizing cs with
  | nil => cases cs <;> simp
  | cons u us ih =>
    rcases cs with - | ⟨c, cs⟩
    · simp [Option.bind_eq_some_iff]
    · simp [Option.bind_eq_some_iff, ih]

/-- **Bytes are read as a text exactly if they are the bytes of that text.** -/
theorem decode?_eq_some_iff {text : String} : decode? bytes = some text ↔ bytes = encode text := by
  rw [decode?, Option.map_eq_some_iff, encode, ← units_eq_map_iff]
  simp only [mapM_id_eq_some_iff]
  constructor
  · rintro ⟨cs, read, rfl⟩
    rw [read, String.toList_ofList]
  · intro read
    exact ⟨text.toList, read, String.ofList_toList⟩

theorem decode?_encode (text : String) : decode? (encode text) = some text :=
  decode?_eq_some_iff.2 rfl

theorem encode_injective : Function.Injective encode := by
  intro text text' same
  have read := decode?_encode text
  rw [same, decode?_encode] at read
  exact (Option.some.inj read).symm

/-! ### ASCII -/

/-- An ASCII byte stands for its character wherever it stands. -/
theorem mem_units_of_ascii {awaited : Awaited} (skips : awaited.SkipsAscii) (mem : b ∈ bytes)
    (ascii : b.toNat < 0x80) : some (Char.ofNat b.toNat) ∈ units awaited bytes := by
  induction bytes generalizing awaited with
  | nil => cases mem
  | cons a rest ih =>
    show _ ∈ (step awaited a).1 ++ units (step awaited a).2 rest
    rcases List.mem_cons.1 mem with rfl | mem
    · refine List.mem_append_left _ ?_
      cases awaited with
      | lead => simp [step, start_one ascii]
      | more left value low high =>
        -- the byte breaks the character off and is read afresh
        have broken : ¬ (low ≤ b.toNat ∧ b.toNat ≤ high) := fun fits =>
          absurd (Nat.le_trans skips fits.1) (by omega)
        simp [step, broken, start_one ascii]
    · exact List.mem_append_right _ (ih (led_step awaited a).skipsAscii mem)

theorem mem_decodeLossy_of_ascii (mem : b ∈ bytes) (ascii : b.toNat < 0x80) :
    Char.ofNat b.toNat ∈ (decodeLossy bytes).toList := by
  rw [decodeLossy, String.toList_ofList]
  exact List.mem_map.2 ⟨_, mem_units_of_ascii trivial mem ascii, rfl⟩

/-! ### Lenient readings -/

/-- A lenient reading starts with a character exactly if the bytes do. -/
theorem head?_decodeLossy_eq_some_iff (genuine : c ≠ '\ufffd') :
    (decodeLossy bytes).toList.head? = some c ↔ encodeChar c <+: bytes := by
  rw [decodeLossy, String.toList_ofList, List.head?_map, Option.map_eq_some_iff]
  constructor
  · rintro ⟨unit, first, shown⟩
    rcases unit with - | c'
    · -- a malformed stretch is read as U+FFFD
      exact absurd shown.symm genuine
    · obtain rfl : c' = c := shown
      obtain ⟨us, read⟩ := List.head?_eq_some_iff.1 first
      obtain ⟨rest, rfl, -⟩ := units_eq_cons_iff.1 read
      exact List.prefix_append _ _
  · rintro ⟨rest, rfl⟩
    exact ⟨some c, by rw [units_encodeChar_append]; rfl, rfl⟩

/-! ### Malformed stretches -/

/-- The bytes of some character begin like this. -/
def Begins (bytes : List UInt8) : Prop := ∃ c, bytes <+: String.utf8EncodeChar c

/-- The stretch, with `rest` behind it, stands where no character does: it is as long as the bytes
of some character begin like this, or it is one byte. -/
structure IsMalformed (stretch rest : List UInt8) : Prop where
  nonempty : stretch ≠ []
  foreign : ∀ c, ¬ String.utf8EncodeChar c <+: stretch ++ rest
  begins : stretch.length = 1 ∨ Begins stretch
  longest : ∀ next ∈ rest.head?, ¬ Begins (stretch ++ [next])

/-- The characters that bytes are read as leniently. -/
inductive ReadsAs : List UInt8 → List Char → Prop
  | nil : ReadsAs [] []
  | character (c : Char) {rest : List UInt8} {cs : List Char} (behind : ReadsAs rest cs) :
      ReadsAs (String.utf8EncodeChar c ++ rest) (c :: cs)
  | malformed {stretch rest : List UInt8} {cs : List Char} (here : IsMalformed stretch rest)
      (behind : ReadsAs rest cs) : ReadsAs (stretch ++ rest) ('\ufffd' :: cs)

theorem Begins.shorter (begins : Begins bytes) (ahead : rest <+: bytes) : Begins rest := by
  obtain ⟨c, stands⟩ := begins
  exact ⟨c, ahead.trans stands⟩

/-- A stretch cannot be malformed up to two places. -/
theorem IsMalformed.unique {stretch stretch' rest rest' : List UInt8}
    (h : IsMalformed stretch rest) (h' : IsMalformed stretch' rest')
    (same : stretch ++ rest = stretch' ++ rest') : stretch = stretch' ∧ rest = rest' := by
  -- of two stretches the longer one begins with the shorter one and the byte behind that
  have shorter {stretch rest stretch' rest' more : List UInt8} (h : IsMalformed stretch rest)
      (h' : IsMalformed stretch' rest') (longer : stretch' = stretch ++ more)
      (behind : rest = more ++ rest') : more = [] := by
    rcases more with - | ⟨next, more⟩
    · rfl
    have several : stretch'.length ≠ 1 := by
      have := List.length_pos_iff.2 h.nonempty
      simp [longer]
      omega
    refine absurd ((h'.begins.resolve_left several).shorter ?_) (h.longest next (by simp [behind]))
    rw [longer]
    simp
  rcases List.append_eq_append_iff.1 same with ⟨more, longer, behind⟩ | ⟨more, longer, behind⟩
  · obtain rfl := shorter h h' longer behind
    exact ⟨by simpa using longer.symm, by simpa using behind⟩
  · obtain rfl := shorter h' h longer behind
    exact ⟨by simpa using longer, by simpa using behind.symm⟩

/-- The reader waits for more once it has read the bytes. -/
inductive Awaits : List UInt8 → (left value low high : Nat) → Prop
  | lead {a : UInt8} {left value low high : Nat}
      (waits : start a = ([], .more left value low high)) : Awaits [a] left value low high
  | more {bytes : List UInt8} {b : UInt8} {k value low high : Nat}
      (before : Awaits bytes (k + 2) value low high) (fits : low ≤ b.toNat ∧ b.toNat ≤ high) :
      Awaits (bytes ++ [b]) (k + 1) (value * 64 + (b.toNat - 0x80)) 0x80 0xbf

section Awaits

variable {left k value low high : Nat}

/-- Something fits, and at least one byte is left. -/
theorem Awaits.exists_left (awaits : Awaits bytes left value low high) :
    (∃ k, left = k + 1) ∧ low ≤ high ∧ high ≤ 0xbf := by
  cases awaits with
  | @lead a _ _ _ _ waits =>
    have first := started a
    rw [waits] at first
    cases first with
    | waits above nonempty below => exact ⟨⟨_, rfl⟩, nonempty, below⟩
  | more => exact ⟨⟨_, rfl⟩, by decide, by decide⟩

/-- What is behind the bytes is read from where the reader waits. -/
theorem Awaits.units_append (awaits : Awaits bytes left value low high) (rest : List UInt8) :
    units .lead (bytes ++ rest) = units (.more left value low high) rest := by
  induction awaits generalizing rest with
  | lead waits =>
    show (start _).1 ++ units (start _).2 rest = _
    rw [waits]
    rfl
  | more before fits ih =>
    rw [List.append_assoc, ih]
    exact units_more_next fits

/-- Bytes 0x80 complete what a fitting byte goes on with. -/
theorem units_completion (fits : low ≤ b.toNat ∧ b.toNat ≤ high) :
    ∃ c, units (.more (k + 1) value low high) (b :: List.replicate k 0x80) = [some c] := by
  induction k generalizing value low high b with
  | zero =>
    refine ⟨_, units_more_last fits⟩
  | succ k ih =>
    rw [units_more_next fits, List.replicate_succ]
    exact ih ⟨by decide, by decide⟩

/-- What fits is what some character goes on with. -/
theorem Awaits.fits_iff (awaits : Awaits bytes left value low high) :
    low ≤ b.toNat ∧ b.toNat ≤ high ↔ Begins (bytes ++ [b]) := by
  obtain ⟨⟨k, rfl⟩, -⟩ := awaits.exists_left
  constructor
  · intro fits
    have completed : ∃ c, units (.more (k + 1) value low high) (b :: List.replicate k 0x80)
        = [some c] := units_completion fits
    obtain ⟨c, read⟩ := completed
    rw [← awaits.units_append] at read
    obtain ⟨rest, eq, nothing⟩ := units_eq_cons_iff.1 read
    obtain ⟨-, rfl⟩ := units_eq_nil_iff.1 nothing
    rw [List.append_nil, encodeChar_eq] at eq
    refine ⟨c, List.replicate k 0x80, ?_⟩
    rw [← eq, List.append_assoc, List.singleton_append]
  · rintro ⟨c, more, eq⟩
    have read := units_encodeChar_append c []
    rw [encodeChar_eq, ← eq, List.append_nil, List.append_assoc, awaits.units_append] at read
    obtain ⟨b', rest, same, fits⟩ := exists_of_units_more read
    obtain ⟨rfl, -⟩ := List.cons.inj same
    exact fits

theorem Awaits.begins (awaits : Awaits bytes left value low high) : Begins bytes := by
  obtain ⟨-, nonempty, bound⟩ := awaits.exists_left
  have value_eq : low.toUInt8.toNat = low := toNat_toUInt8 (by omega)
  have fits : low ≤ low.toUInt8.toNat ∧ low.toUInt8.toNat ≤ high := by omega
  exact (awaits.fits_iff.1 fits).shorter (List.prefix_append _ _)

theorem Awaits.ne_nil (awaits : Awaits bytes left value low high) : bytes ≠ [] := by
  cases awaits with
  | lead => exact List.cons_ne_nil _ _
  | more => exact List.append_ne_nil_of_right_ne_nil _ (List.cons_ne_nil _ _)

end Awaits

/-- No character stands where the reader finds something malformed. -/
theorem not_prefix_of_units {us : List (Option Char)} (read : units .lead bytes = none :: us)
    (c : Char) : ¬ String.utf8EncodeChar c <+: bytes := by
  rintro ⟨rest, rfl⟩
  rw [← encodeChar_eq, units_encodeChar_append] at read
  cases read

/-- A character that is broken off is malformed up to the byte that does not fit. -/
theorem Awaits.exists_malformed {left value low high : Nat} {before : List UInt8}
    {us : List (Option Char)} (awaits : Awaits before left value low high)
    (read : units (.more left value low high) bytes = none :: us) :
    ∃ more rest, bytes = more ++ rest ∧ IsMalformed (before ++ more) rest ∧
      units .lead rest = us := by
  induction bytes generalizing before left value low high with
  | nil =>
    cases read
    refine ⟨[], [], rfl, ⟨by simpa using awaits.ne_nil, ?_, ?_, nofun⟩, rfl⟩
    · have found : units .lead (before ++ [] ++ []) = [none] := by
        simpa [units] using awaits.units_append []
      exact not_prefix_of_units found
    · exact .inr (by simpa using awaits.begins)
  | cons b bytes ih =>
    obtain ⟨⟨k, rfl⟩, -⟩ := awaits.exists_left
    by_cases fits : low ≤ b.toNat ∧ b.toNat ≤ high
    · rcases k with - | k
      · -- the byte completes a character
        rw [units_more_last fits] at read
        cases read
      · rw [units_more_next fits] at read
        obtain ⟨more, rest, rfl, malformed, behind⟩ := ih (awaits.more fits) read
        rw [List.append_assoc] at malformed
        exact ⟨b :: more, rest, rfl, malformed, behind⟩
    · have afresh : units (.more (k + 1) value low high) (b :: bytes)
          = none :: units .lead (b :: bytes) := by
        simp [units, step, fits]
      rw [afresh] at read
      refine ⟨[], b :: bytes, rfl, ⟨by simpa using awaits.ne_nil, ?_, ?_, ?_⟩,
        (List.cons.inj read).2⟩
      · have found : units .lead (before ++ [] ++ b :: bytes) = none :: us := by
          rw [List.append_nil, awaits.units_append, afresh, read]
        exact not_prefix_of_units found
      · exact .inr (by simpa using awaits.begins)
      · rintro next ⟨⟩
        rw [List.append_nil]
        exact mt awaits.fits_iff.2 fits

/-- Where a reader finds something malformed, a malformed stretch stands. -/
theorem exists_malformed_of_units {us : List (Option Char)}
    (read : units .lead bytes = none :: us) :
    ∃ stretch rest, bytes = stretch ++ rest ∧ IsMalformed stretch rest ∧ units .lead rest = us := by
  rcases bytes with - | ⟨a, bytes⟩
  · cases read
  have foreign := not_prefix_of_units read
  change (start a).1 ++ units (start a).2 bytes = _ at read
  have first := started a
  rcases led : start a with ⟨now, next⟩
  rw [led] at first read
  cases first with
  | yields => cases read
  | waits =>
    obtain ⟨more, rest, rfl, malformed, behind⟩ := (Awaits.lead led).exists_malformed read
    exact ⟨a :: more, rest, rfl, malformed, behind⟩
  | stray =>
    refine ⟨[a], bytes, rfl, ⟨List.cons_ne_nil _ _, foreign, .inl rfl, ?_⟩,
      (List.cons.inj read).2⟩
    rintro next - ⟨c, more, eq⟩
    have whole := units_encodeChar_append c []
    rw [encodeChar_eq, ← eq, List.append_nil] at whole
    change (start a).1 ++ units (start a).2 _ = _ at whole
    rw [led] at whole
    cases whole

/-- A reader that stands before a malformed stretch finds one malformed thing there. -/
theorem IsMalformed.units_append {stretch : List UInt8} (malformed : IsMalformed stretch rest) :
    units .lead (stretch ++ rest) = none :: units .lead rest := by
  rcases read : units .lead (stretch ++ rest) with - | ⟨_ | c, us⟩
  · obtain ⟨-, none⟩ := units_eq_nil_iff.1 read
    exact absurd (List.append_eq_nil_iff.1 none).1 malformed.nonempty
  · obtain ⟨stretch', rest', same, malformed', rfl⟩ := exists_malformed_of_units read
    obtain ⟨-, rfl⟩ := malformed.unique malformed' same
    rfl
  · obtain ⟨rest', same, -⟩ := units_eq_cons_iff.1 read
    exact absurd ⟨rest', (encodeChar_eq c ▸ same).symm⟩ (malformed.foreign c)

theorem toList_decodeLossy (bytes : List UInt8) :
    (decodeLossy bytes).toList = (units .lead bytes).map (·.getD '\ufffd') := by
  rw [decodeLossy, String.toList_ofList]

/-- Each list of bytes is read as some characters. -/
theorem readsAs_units (us : List (Option Char)) {bytes : List UInt8}
    (read : units .lead bytes = us) : ReadsAs bytes (us.map (·.getD '\ufffd')) := by
  induction us generalizing bytes with
  | nil =>
    obtain ⟨-, rfl⟩ := units_eq_nil_iff.1 read
    exact .nil
  | cons unit us ih =>
    rcases unit with - | c
    · obtain ⟨stretch, rest, rfl, malformed, behind⟩ := exists_malformed_of_units read
      exact .malformed malformed (ih behind)
    · obtain ⟨rest, rfl, behind⟩ := units_eq_cons_iff.1 read
      rw [encodeChar_eq]
      exact .character c (ih behind)

/-- **A lenient reading has the characters that stand in the bytes, and U+FFFD for each malformed
stretch.** -/
theorem decodeLossy_eq_iff {text : String} :
    decodeLossy bytes = text ↔ ReadsAs bytes text.toList := by
  rw [← String.toList_inj, toList_decodeLossy]
  generalize text.toList = cs
  constructor
  · rintro rfl
    exact readsAs_units _ rfl
  · intro reads
    induction reads with
    | nil => rfl
    | character c _ ih => rw [← encodeChar_eq, units_encodeChar_append, List.map_cons, ih]; rfl
    | malformed here _ ih => rw [here.units_append, List.map_cons, ih]; rfl

end Utf8

end PackageRelease
