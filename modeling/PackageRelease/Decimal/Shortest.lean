/-
PackageRelease/Decimal/Shortest.lean

The fewest decimal digits that read back as a number of double precision.

The numbers that go to `x` form an interval around it, its ends included when
the significand of `x` is even.  For one digit, two digits and so on, the two
neighbours of `x` on the grid of that many digits are tried, and the first
grid with a neighbour in the interval wins; of two such neighbours the nearer
one is taken.  Seventeen digits always suffice.

`text` writes the digits out: with a point from 0.00001 up to below 10 ^ 16,
and with an exponent outside.
-/
import PackageRelease.Decimal.Binary64

namespace PackageRelease

namespace Shortest

/-! ### The interval -/

/-- A quarter of the step between `x` and the next larger number, as a quotient. -/
def quarter (x : Binary64) : Nat × Nat := Binary64.power 2 (x.exponent - 2)

/-- The ends of the interval of `x`, counted in quarter steps. -/
def ends (x : Binary64) : Nat × Nat :=
  let centre := 4 * x.significand
  let below := if x.significand = Nat.pow 2 52 ∧ Binary64.smallestExponent < x.exponent then 1
    else 2
  (centre - below, centre + 2)

/-- The decimal `digits * 10 ^ scale` lies in the interval of `x`. -/
def readsBack (x : Binary64) (digits : Nat) (scale : Int) : Bool :=
  let (q, r) := quarter x
  let (t, u) := Binary64.power 10 scale
  let value := digits * t * r
  let (low, high) := ends x
  let low := low * q * u
  let high := high * q * u
  if x.significand % 2 = 0 then low ≤ value && value ≤ high
  else low < value && value < high

/-- The distance of `digits * 10 ^ scale` from `x`, in a unit that depends on `x` and `scale`. -/
def distance (x : Binary64) (digits : Nat) (scale : Int) : Nat :=
  let (p, r) := Binary64.power 2 x.exponent
  let (t, u) := Binary64.power 10 scale
  let value := digits * t * r
  let centre := x.significand * p * u
  (value - centre) + (centre - value)

/-! ### The digits -/

/-- The power of ten of the first digit of `x`. -/
def leadingPower (x : Binary64) : Int :=
  let (num, den) := x.ratio
  ((Nat.toDigits 10 (num * Nat.pow 10 400 / den)).length : Int) - 401

/-- The better of the two neighbours of `x` on the grid of `10 ^ scale`, if one reads back. -/
def neighbour? (x : Binary64) (scale : Int) : Option Nat :=
  let (num, den) := x.ratio
  let (t, u) := Binary64.power 10 scale
  let low := num * u / (den * t)
  match readsBack x low scale, readsBack x (low + 1) scale with
  | true, true =>
    let below := distance x low scale
    let above := distance x (low + 1) scale
    if below < above ∨ (below = above ∧ low % 2 = 0) then some low else some (low + 1)
  | true, false => some low
  | false, true => some (low + 1)
  | false, false => none

/-- The digits and their power of ten, with at least `17 - tries` digits. -/
def search (x : Binary64) (first : Int) : Nat → Nat × Int
  | 0 => (0, 0)
  | tries + 1 =>
    let scale := first - (16 - tries : Int)
    match neighbour? x scale with
    | some digits => (digits, scale)
    | none => search x first tries

/-- The fewest digits that read back as `x`, and the power of ten of the last of them. -/
def decimal (x : Binary64) : Nat × Int :=
  if x.isZero then (0, 0) else search x (leadingPower x) 17

/-! ### Text -/

/-- The digits of `decimal` without zeros at their end, and the power of ten of the first. -/
def significant (x : Binary64) : List Char × Int :=
  let (digits, scale) := decimal x
  let all := Nat.toDigits 10 digits
  let kept := (all.reverse.dropWhile (· == '0')).reverse
  (if kept.isEmpty then ['0'] else kept, scale + (all.length : Int) - 1)

/-- The digits with a point among or around them; at least one digit follows it. -/
def positional (digits : List Char) (first : Int) : List Char :=
  if first < 0 then
    '0' :: '.' :: List.replicate (-first - 1).toNat '0' ++ digits
  else
    let before := first.toNat + 1
    let whole := digits.take before ++ List.replicate (before - digits.length) '0'
    let fraction := digits.drop before
    whole ++ '.' :: (if fraction.isEmpty then ['0'] else fraction)

/-- The digits with a point behind the first, and an exponent that shows its sign. -/
def scientific (digits : List Char) (first : Int) : List Char :=
  let mantissa :=
    match digits with
    | [] => ['0']
    | [d] => [d]
    | d :: rest => d :: '.' :: rest
  let sign := if first < 0 then '-' else '+'
  mantissa ++ 'e' :: sign :: Nat.toDigits 10 first.natAbs

/-- The text of the fewest digits that read back as `x`. -/
def text (x : Binary64) : String :=
  let (digits, first) := significant x
  String.ofList <|
    if -5 ≤ first ∧ first < 16 then positional digits first else scientific digits first

end Shortest

end PackageRelease
