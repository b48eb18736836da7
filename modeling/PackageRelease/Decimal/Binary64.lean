/-
PackageRelease/Decimal/Binary64.lean

Numbers of double precision without their sign, in exact arithmetic.

A number is `significand * 2 ^ exponent`.  The significand has 53 bits, or
fewer at the smallest exponent, so that each number has one form.  `ofRatio?`
goes from a quotient of natural numbers to the nearest number, to the one
with an even significand from the middle, and to none from 2 ^ 1024 on; the
operations compute exactly and then go to the nearest number.
-/

namespace PackageRelease

/-- A number of double precision that is not negative. -/
structure Binary64 where
  significand : Nat
  exponent : Int
deriving DecidableEq, Repr

namespace Binary64

/-! ### Powers as quotients -/

/-- The exponent of the smallest number. -/
def smallestExponent : Int := -1074

/-- The exponent of the largest number. -/
def largestExponent : Int := 971

/-- The power `base ^ e` as a quotient of natural numbers. -/
def power (base : Nat) (e : Int) : Nat × Nat :=
  if 0 ≤ e then (base.pow e.toNat, 1) else (1, base.pow (-e).toNat)

/-! ### Going to the nearest number -/

/-- The nearest natural number to a quotient; from the middle, the even one. -/
def roundHalfEven (num den : Nat) : Nat :=
  let low := num / den
  let twice := 2 * (num % den)
  if twice < den then low
  else if den < twice then low + 1
  else if low % 2 = 0 then low else low + 1

/-- The exponent at which a quotient has 53 bits before the point, or the smallest one. -/
def fittingExponent (num den : Nat) : Int :=
  let guess := max ((Nat.log2 num : Int) - (Nat.log2 den : Int) - 53) smallestExponent
  let (p, r) := power 2 guess
  if Nat.pow 2 53 ≤ num * r / (den * p) then guess + 1 else guess

/-- The number nearest to a quotient, if it is not too large. -/
def ofRatio? (num den : Nat) : Option Binary64 :=
  if num = 0 then some ⟨0, smallestExponent⟩
  else
    let exponent := fittingExponent num den
    let (p, r) := power 2 exponent
    let significand := roundHalfEven (num * r) (den * p)
    let (significand, exponent) :=
      if significand = Nat.pow 2 53 then (Nat.pow 2 52, exponent + 1) else (significand, exponent)
    if largestExponent < exponent then none else some ⟨significand, exponent⟩

/-- The number nearest to a natural number, if it is not too large. -/
def ofNat? (n : Nat) : Option Binary64 := ofRatio? n 1

/-! ### Operations -/

/-- The number is zero. -/
def isZero (x : Binary64) : Bool := x.significand == 0

/-- The number as a quotient of natural numbers. -/
def ratio (x : Binary64) : Nat × Nat :=
  let (p, r) := power 2 x.exponent
  (x.significand * p, r)

/-- The product, if it is not too large. -/
def mul? (x y : Binary64) : Option Binary64 :=
  ofRatio? (x.ratio.1 * y.ratio.1) (x.ratio.2 * y.ratio.2)

/-- The quotient, if it is not too large. -/
def div? (x y : Binary64) : Option Binary64 :=
  ofRatio? (x.ratio.1 * y.ratio.2) (x.ratio.2 * y.ratio.1)

example : ofNat? 1 = some ⟨2 ^ 52, -52⟩ := by decide +kernel
example : ofNat? (2 ^ 53 + 1) = some ⟨2 ^ 52, 1⟩ := by decide +kernel
example : ofRatio? 1 (2 ^ 1074) = some ⟨1, -1074⟩ := by decide +kernel

end Binary64

end PackageRelease
