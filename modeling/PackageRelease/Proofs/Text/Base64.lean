/-
PackageRelease/Proofs/Text/Base64.lean

Bytes are read back from their printable text.

    decode? (encode bytes) = some bytes

The letters of a text are never the filling, so a last group of one or two
bytes cannot be taken for a whole one.
-/
import PackageRelease.Proofs.Text.Utf8
import PackageRelease.Text.Base64

namespace PackageRelease

namespace Base64

/-! ### One group -/

theorem decodeChars?_one {v w : Nat} (hv : v < 64) (hw : w < 64) (whole : w % 16 = 0) :
    decodeChars? [letter v, letter w, '=', '='] = some [((v * 64 + w) / 16).toUInt8] := by
  have : (v * 64 + w) % 16 = 0 := by omega
  simp [decodeChars?, value?_letter v hv, value?_letter w hw, this]

theorem decodeChars?_two {u v w : Nat} (hu : u < 64) (hv : v < 64) (hw : w < 64)
    (whole : w % 4 = 0) :
    decodeChars? [letter u, letter v, letter w, '=']
      = some [(((u * 64 + v) * 64 + w) / 1024).toUInt8,
          (((u * 64 + v) * 64 + w) / 4 % 256).toUInt8] := by
  have : ((u * 64 + v) * 64 + w) % 4 = 0 := by omega
  simp [decodeChars?, value?_letter u hu, value?_letter v hv, value?_letter w hw,
    letter_ne_filling w hw, this]

theorem decodeChars?_three {t u v w : Nat} (ht : t < 64) (hu : u < 64) (hv : v < 64) (hw : w < 64)
    (rest : List Char) :
    decodeChars? (letter t :: letter u :: letter v :: letter w :: rest)
      = (decodeChars? rest).map fun more =>
          ((((t * 64 + u) * 64 + v) * 64 + w) / 65536).toUInt8 ::
            ((((t * 64 + u) * 64 + v) * 64 + w) / 256 % 256).toUInt8 ::
              ((((t * 64 + u) * 64 + v) * 64 + w) % 256).toUInt8 :: more := by
  -- the last of the four is a letter, so the two equations with a filling do not apply
  have full : letter w ≠ '=' := letter_ne_filling w hw
  rw [decodeChars?]
  · simp only [value?_letter t ht, value?_letter u hu, value?_letter v hv, value?_letter w hw,
      Option.bind_eq_bind, Option.bind_some]
    cases decodeChars? rest <;> rfl
  all_goals simp [full]

/-! ### Whole texts -/

theorem decodeChars?_encodeChars (bytes : List UInt8) :
    decodeChars? (encodeChars bytes) = some bytes := by
  fun_induction encodeChars bytes with
  | case1 => rfl
  | case2 a v =>
    have := a.toNat_lt
    rw [decodeChars?_one (by omega) (by omega) (by omega), toUInt8_eq (b := a) (by omega)]
  | case3 a b v =>
    have := a.toNat_lt
    have := b.toNat_lt
    rw [decodeChars?_two (by omega) (by omega) (by omega) (by omega), toUInt8_eq (b := a) (by omega),
      toUInt8_eq (b := b) (by omega)]
  | case4 a b c rest v ih =>
    have := a.toNat_lt
    have := b.toNat_lt
    have := c.toNat_lt
    rw [decodeChars?_three (by omega) (by omega) (by omega) (by omega), ih,
      toUInt8_eq (b := a) (by omega), toUInt8_eq (b := b) (by omega), toUInt8_eq (b := c) (by omega)]
    rfl

/-- **Bytes are read back from their printable text.** -/
theorem decode?_encode (bytes : List UInt8) : decode? (encode bytes) = some bytes := by
  rw [decode?, encode, String.toList_ofList, decodeChars?_encodeChars]

theorem encode_injective : Function.Injective encode := by
  intro bytes bytes' same
  have read := decode?_encode bytes
  rw [same, decode?_encode] at read
  exact (Option.some.inj read).symm

end Base64

end PackageRelease
