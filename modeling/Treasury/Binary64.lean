import Treasury.Decimal.Text
import Treasury.Rounding

/-!
# Binary numbers of sixty-four bits

Documents may hold numbers with a fraction or an exponent. They are held as the finite
binary numbers of sixty-four bits: a significand below `2 ^ 53` times a power of two. All
arithmetic is exact and is rounded once, a half going to the even neighbour.

`Binary64.shortest` gives the fewest digits that still name the number: for each power of
ten, from large to small, the two whole multiples next to the number are tried, and the
first that lies among the reals rounding to the number wins, of two such the nearer.
-/

namespace Treasury

/-- The number `significand * 2 ^ exponent`, with a sign that zero has as well. -/
structure Binary64 where
  negative : Bool
  significand : Nat
  exponent : Int
  deriving DecidableEq, Repr

namespace Binary64

/-- Significands stay below this: the number of values of fifty-three bits. -/
def bound : Nat := 0x20000000000000

/-- The smallest significand of all bits, half of `bound`. -/
def half : Nat := 0x10000000000000

/-- The smallest exponent; the numbers below `2 ^ 52` times its power are spaced evenly. -/
def minExponent : Int := -1074

/-- The largest exponent. -/
def maxExponent : Int := 971

/-- Zero of either sign. -/
def zero (negative : Bool) : Binary64 := ⟨negative, 0, minExponent⟩

/-- True of both zeros. -/
def isZero (x : Binary64) : Bool := x.significand = 0

/-- `n / d` in units of `2 ^ e`, as a fraction of whole numbers. -/
def inUnits (n d : Nat) (e : Int) : Nat × Nat :=
  (n * Nat.pow 2 (-e).toNat, d * Nat.pow 2 e.toNat)

/-- The number nearest to `n / d`; `none` beyond the largest. -/
def nearest? (negative : Bool) (n d : Nat) : Option Binary64 :=
  if n = 0 then some (zero negative)
  else
    let low := max minExponent ((n.log2 : Int) - d.log2 - 53)
    let units := inUnits n d low
    let e := if units.1 / units.2 < bound then low else low + 1
    let units := inUnits n d e
    let m := divHalfEven units.1 units.2
    let (m, e) := if m = bound then (half, e + 1) else (m, e)
    if e ≤ maxExponent then some ⟨negative, m, e⟩ else none

/-- The largest number, or the one furthest below zero. -/
def largest (negative : Bool) : Binary64 := ⟨negative, bound - 1, maxExponent⟩

/-- The number nearest to `n / d`, or the largest. -/
def nearest (negative : Bool) (n d : Nat) : Binary64 :=
  (nearest? negative n d).getD (largest negative)

/-- The numerator and denominator of the magnitude. -/
def fraction (x : Binary64) : Nat × Nat :=
  (x.significand * Nat.pow 2 x.exponent.toNat, Nat.pow 2 (-x.exponent).toNat)

/-- The product of `x` and a positive `y`, rounded. -/
def mul? (x y : Binary64) : Option Binary64 :=
  nearest? x.negative (x.fraction.1 * y.fraction.1) (x.fraction.2 * y.fraction.2)

/-- The quotient of `x` and a positive `y`, rounded. -/
def div? (x y : Binary64) : Option Binary64 :=
  nearest? x.negative (x.fraction.1 * y.fraction.2) (x.fraction.2 * y.fraction.1)

/-- The power of ten nearest to `10 ^ k`, for `k` up to 308. -/
def powerOfTen? (k : Nat) : Option Binary64 := nearest? false (Nat.pow 10 k) 1

/-! ## Shortest digits -/

/-- The reals that round to a number, in quarters of its unit in the last place. -/
structure Interval where
  low : Nat
  middle : Nat
  high : Nat
  /-- The ends belong to the interval. -/
  closed : Bool

/-- The interval of `x`. Just above a power of two the numbers below lie twice as dense. -/
def interval (x : Binary64) : Interval where
  low := if x.significand = half ∧ minExponent < x.exponent
    then 4 * x.significand - 1 else 4 * x.significand - 2
  middle := 4 * x.significand
  high := 4 * x.significand + 2
  closed := x.significand % 2 = 0

/-- The whole multiple of `10 ^ p` that names `x`, if there is one. -/
def onGrid? (x : Binary64) (p : Int) : Option Nat :=
  let i := x.interval
  let e := x.exponent - 2
  let up := Nat.pow 2 e.toNat * Nat.pow 10 (-p).toNat
  let step := Nat.pow 2 (-e).toNat * Nat.pow 10 p.toNat
  let inside (c : Nat) : Bool :=
    c ≠ 0 ∧ (if i.closed then i.low * up ≤ c * step ∧ c * step ≤ i.high * up
      else i.low * up < c * step ∧ c * step < i.high * up)
  let below := i.middle * up / step
  let above := below + 1
  if inside below then
    if inside above then
      let down := i.middle * up - below * step
      let rise := above * step - i.middle * up
      if down < rise ∨ (down = rise ∧ below % 2 = 0) then some below else some above
    else some below
  else if inside above then some above
  else none

/-- Tries the grids from `10 ^ p` downwards. -/
def shortestFrom (x : Binary64) (p : Int) : Nat → Nat × Int
  | 0 => (0, 0)
  | fuel + 1 =>
    match x.onGrid? p with
    | some c => (c, p)
    | none => x.shortestFrom (p - 1) fuel

/-- The digits `c` and the power `p` with `c * 10 ^ p` naming the magnitude of `x`, in the
fewest digits. The grids from `10 ^ 309` to `10 ^ -330` are enough for every number. -/
def shortest (x : Binary64) : Nat × Int :=
  if x.isZero then (0, 0) else x.shortestFrom 309 640

/-- The shortest digits without an exponent. -/
def toPositional (x : Binary64) : String :=
  let (digits, power) := x.shortest
  let magnitude :=
    if power < 0 then Decimal.magnitudeText digits (-power).toNat
    else toString (digits * Nat.pow 10 power.toNat)
  if x.negative then "-" ++ magnitude else magnitude

end Binary64

end Treasury
