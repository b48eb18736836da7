/-
PackageRelease/Duration.lean

Spans of time to the nanosecond, and their text.

The unit is the largest of `s`, `ms`, `µs` and `ns` that the span reaches, and
the fraction has as many digits as it needs:

    0ns   1.5µs   250.000001ms   1.00000001s
-/

namespace PackageRelease

/-- A span of time: whole seconds and the nanoseconds beyond them. -/
structure Duration where
  seconds : Nat
  nanoseconds : Nat
  nanoseconds_lt : nanoseconds < 1000000000 := by decide
deriving DecidableEq, Repr

namespace Duration

/-! ### Making spans -/

/-- The span of the given parts; nanoseconds past a second carry over. -/
def ofParts (seconds nanoseconds : Nat) : Duration where
  seconds := seconds + nanoseconds / 1000000000
  nanoseconds := nanoseconds % 1000000000
  nanoseconds_lt := Nat.mod_lt _ (by decide)

/-- The span of whole seconds. -/
def ofSeconds (seconds : Nat) : Duration where
  seconds := seconds
  nanoseconds := 0

/-- The length of the span in nanoseconds. -/
def total (d : Duration) : Nat := d.seconds * 1000000000 + d.nanoseconds

@[simp] theorem total_ofParts (s n : Nat) : (ofParts s n).total = s * 1000000000 + n := by
  simp only [total, ofParts]
  omega

/-! ### Text -/

/-- The digits of `part / 10 ^ width` behind the point, without the zeros at their end. -/
def fractionDigits (width part : Nat) : List Char :=
  let digits := Nat.toDigits 10 part
  let padded := List.replicate (width - digits.length) '0' ++ digits
  (padded.reverse.dropWhile (· == '0')).reverse

/-- A whole number, the fraction `part / 10 ^ width` and a unit. -/
def measure (whole part width : Nat) (unit : String) : String :=
  match fractionDigits width part with
  | [] => toString whole ++ unit
  | digits => toString whole ++ "." ++ String.ofList digits ++ unit

/-- The span in the largest unit that it reaches. -/
def text (d : Duration) : String :=
  let n := d.nanoseconds
  if 0 < d.seconds then measure d.seconds n 9 "s"
  else if 1000000 ≤ n then measure (n / 1000000) (n % 1000000) 6 "ms"
  else if 1000 ≤ n then measure (n / 1000) (n % 1000) 3 "µs"
  else measure n 0 0 "ns"

example : (ofParts 0 1500).text = "1.5µs" := by decide +kernel
example : (ofParts 0 250000001).text = "250.000001ms" := by decide +kernel
example : (ofParts 1 10).text = "1.00000001s" := by decide +kernel
example : (ofParts 0 0).text = "0ns" := by decide +kernel

end Duration

end PackageRelease
