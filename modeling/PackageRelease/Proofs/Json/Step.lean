/-
PackageRelease/Proofs/Json/Step.lean

The readers of JSON texts, one step at a time.

Readers that call themselves keep the equation of each outcome on which they
do, because that is what shows that less text is left.  Here are their steps
without these equations, as one outcome after another, so that an outcome can
be put in the place of the reader that has it.
-/
import PackageRelease.Json.Record
import PackageRelease.Proofs.Outcome

namespace PackageRelease

namespace Json

/-! ### Strings -/

theorem readChars_cons (before : List Char) (c : Char) (rest : List Char) :
    readChars before (c :: rest)
      = if c = '"' then .ok (before.reverse, rest)
        else if c = '\\' then readEscape rest >>= fun p => readChars (p.1 :: before) p.2
        else if c.toNat < 0x20 then .error ⟨.controlCharacter, c :: rest, 1⟩
        else readChars (c :: before) rest := by
  rw [readChars]
  by_cases escaped : c = '\\'
  · subst escaped
    have apart : '\\' ≠ '"' := by decide
    rw [if_neg apart, if_neg apart, if_pos rfl, if_pos rfl]
    split
    · next failed => rw [failed, error_bind]
    · next found => simp only [found, ok_bind]
  · rw [if_neg escaped, if_neg escaped]

theorem skipString_cons (c : Char) (rest : List Char) :
    skipString (c :: rest)
      = if c = '"' then .ok rest
        else if c = '\\' then skipEscape rest >>= skipString
        else if c.toNat < 0x20 then .error ⟨.controlCharacter, c :: rest, 0⟩
        else skipString rest := by
  rw [skipString]
  by_cases escaped : c = '\\'
  · subst escaped
    have apart : '\\' ≠ '"' := by decide
    rw [if_neg apart, if_neg apart, if_pos rfl, if_pos rfl]
    split
    · next failed => rw [failed, error_bind]
    · next found => simp only [found, ok_bind]
  · rw [if_neg escaped, if_neg escaped]

/-! ### Values that are passed over -/

section Within

variable {bracket : Bracket} {outer : List Bracket} {text rest : List Char} {c : Char}

theorem skipWithin_value (starts : dropSpaces text = c :: rest) :
    skipWithin .value outer text
      = match opener? c with
        | some bracket => skipWithin .opened (bracket :: outer) rest
        | none => skipScalar (c :: rest) >>= skipWithin .ended outer := by
  rw [skipWithin]
  split
  · next h => rw [starts] at h; cases h
  · next h =>
    rw [starts] at h
    cases h
    rcases opener? c with - | bracket
    · dsimp only
      split
      · next failed => rw [failed, error_bind]
      · next found => simp only [found, ok_bind]
    · rfl

theorem skipWithin_opened (starts : dropSpaces text = c :: rest) :
    skipWithin .opened (bracket :: outer) text
      = if c = bracket.closer then skipWithin .ended outer rest
        else skipKey bracket (c :: rest) >>= skipWithin .value (bracket :: outer) := by
  rw [skipWithin]
  split
  · next h => rw [starts] at h; cases h
  · next h =>
    rw [starts] at h
    cases h
    split
    · rfl
    · split
      · next failed => rw [failed, error_bind]
      · next found => simp only [found, ok_bind]

theorem skipWithin_ended (starts : dropSpaces text = c :: rest) :
    skipWithin .ended (bracket :: outer) text
      = if c = ',' then skipKey bracket rest >>= skipWithin .value (bracket :: outer)
        else if c = bracket.closer then skipWithin .ended outer rest
        else .error ⟨.expectedCommaOrEnd bracket, c :: rest, 1⟩ := by
  rw [skipWithin]
  split
  · next h => rw [starts] at h; cases h
  · next h =>
    rw [starts] at h
    cases h
    split
    · split
      · next failed => rw [failed, error_bind]
      · next found => simp only [found, ok_bind]
    · rfl

end Within

/-! ### Members -/

/-- The fields that have been read, with the member behind whose opening quote the text starts if
it is one of the fields, and the rest. -/
def readMember (fields : List String) (before : List (String × String)) (text : List Char) :
    Except Fault (List (String × String) × List Char) := do
  let (key, rest) ← readString text
  if fields.contains key then
    if (before.lookup key).isSome then .error ⟨.duplicateField key, closeObject rest, 0⟩
    else
      let (value, rest) ← skipColon rest >>= readText
      return ((key, value) :: before, rest)
  else return (before, ← skipColon rest >>= skip)

theorem readMember_length_lt {fields : List String} {before after : List (String × String)}
    {text rest : List Char} (read : readMember fields before text = .ok (after, rest)) :
    rest.length < text.length := by
  obtain ⟨⟨key, text₁⟩, key_read, read⟩ := bind_eq_ok_iff.1 read
  have := readString_length_lt key_read
  dsimp only at read
  split at read
  · split at read
    · cases read
    · obtain ⟨⟨value, text₂⟩, value_read, read⟩ := bind_eq_ok_iff.1 read
      obtain ⟨text₃, colon, value_read⟩ := bind_eq_ok_iff.1 value_read
      obtain rfl : text₂ = rest := congrArg Prod.snd (Except.ok.inj read)
      have := readText_length_lt value_read
      have := skipColon_length_lt colon
      omega
  · obtain ⟨text₂, passed, read⟩ := bind_eq_ok_iff.1 read
    obtain ⟨text₃, colon, passed⟩ := bind_eq_ok_iff.1 passed
    cases read
    have := skipWithin_length_le passed
    have := skipColon_length_lt colon
    omega

/-- Members are read one by one. -/
theorem readMembers_eq (fields : List String) (first : Bool) (before : List (String × String))
    (text : List Char) :
    readMembers fields first before text
      = nextKey first text >>= fun p =>
          if p.1 then readMember fields before p.2 >>= fun q => readMembers fields false q.1 q.2
          else .ok (before, p.2) := by
  rw [readMembers]
  split
  · next failed => rw [failed, error_bind]
  · next found => rw [found]; rfl
  · next rest found =>
    have step : (nextKey first text >>= fun p =>
          if p.1 then readMember fields before p.2 >>= fun q => readMembers fields false q.1 q.2
          else .ok (before, p.2))
        = readMember fields before rest >>= fun q => readMembers fields false q.1 q.2 := by
      rw [found]
      rfl
    rw [step, readMember]
    split
    · next failed => rw [failed, error_bind, error_bind]
    · next found =>
      simp only [found, ok_bind]
      split
      · split
        · rfl
        · split
          · next failed => rw [failed, error_bind, error_bind, error_bind]
          · next found =>
            simp only [found, ok_bind]
            split
            · next failed => rw [failed, error_bind, error_bind]
            · next found => rw [found]; rfl
      · split
        · next failed => rw [failed, error_bind, error_bind, error_bind]
        · next found =>
          simp only [found, ok_bind]
          split
          · next failed => rw [failed, error_bind, error_bind]
          · next found => rw [found]; rfl

end Json

end PackageRelease
