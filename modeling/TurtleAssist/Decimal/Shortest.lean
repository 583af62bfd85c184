/-!
# The shortest decimal of a binary fraction

A floating-point number stands for every real that rounds to it. Of the
decimals among those reals, the shortest is the one on the coarsest grid: with
the largest power of ten of which some multiple rounds to the number. Where two
neighbouring multiples do, the nearer one is taken, and of two that are equally
near the even one.

All of it is exact arithmetic on natural numbers. A value is `m · 2 ^ q`, and
the reals that round to it reach half a unit up and half a unit down; only
below a power of two the lower half is half as wide, because the numbers below
are twice as close. The ends belong to the interval when `m` is even, since a
tie rounds to even.
-/

namespace TurtleAssist.Decimal

/-- The reals that round to a value, in quarters of its unit: `center` and the ends of
the interval are to be multiplied by `2 ^ exponent`. -/
structure Interval where
  low : Nat
  center : Nat
  high : Nat
  /-- Whether the ends belong to the interval. -/
  closed : Bool
  exponent : Int
deriving DecidableEq, Repr

/-- The interval of `m · 2 ^ q`. The numbers below are twice as close where `m` is the
least significand of its exponent and that exponent is not the least of all. -/
def Interval.ofBinary (m : Nat) (q : Int) (closerBelow : Bool) : Interval where
  low := if closerBelow then 4 * m - 1 else 4 * m - 2
  center := 4 * m
  high := 4 * m + 2
  closed := m % 2 == 0
  exponent := q - 2

/-- Decimal digits and the power of ten to multiply them by. -/
structure Digits where
  significand : Nat
  exponent : Int
deriving DecidableEq, Repr

/-- The multiple of `10 ^ k` that rounds to the value, if there is one: of the two
multiples around the center, the nearer one that lies in the interval. In the
middle between them, the even multiple counts as the nearer. -/
def Interval.onGrid? (interval : Interval) (k : Int) : Option Digits :=
  -- `scale · 2 ^ exponent / unit` is `2 ^ exponent / 10 ^ k`
  let scale := Nat.pow 2 interval.exponent.toNat * Nat.pow 10 (-k).toNat
  let unit := Nat.pow 2 (-interval.exponent).toNat * Nat.pow 10 k.toNat
  let center := interval.center * scale
  let inside (n : Nat) : Bool :=
    if interval.closed then interval.low * scale ≤ n * unit && n * unit ≤ interval.high * scale
    else interval.low * scale < n * unit && n * unit < interval.high * scale
  let below := center / unit
  let above := below + 1
  let past := 2 * (center - below * unit)
  let nearer := if past < unit || past == unit && below % 2 == 0 then below else above
  let farther := if nearer = below then above else below
  if inside nearer then some ⟨nearer, k⟩
  else if inside farther then some ⟨farther, k⟩
  else none

/-- The shortest decimal of the interval, looked for on ever finer grids. The grids
reach from the largest power of ten of a double to beyond the last digit of the
smallest. -/
def Interval.shortest (interval : Interval) : Digits :=
  let grids := (List.range 700).map fun (i : Nat) => (330 : Int) - i
  (grids.findSome? interval.onGrid?).getD ⟨0, 0⟩

/-- The least significand of a double that is not written with leading zeros, which is
also the number of its fractions. -/
def leastNormal : Nat := 0x10000000000000

/-- The number of exponents of a double. -/
def exponents : Nat := 0x800

/-- The magnitude of a double as significand and exponent, from its bits. -/
def binaryOfBits (bits : Nat) : Nat × Int :=
  let fraction : Nat := bits % leastNormal
  let exponent : Nat := bits / leastNormal % exponents
  if exponent = 0 then (fraction, -1074) else (leastNormal + fraction, (exponent : Int) - 1075)

/-- The shortest decimal of the magnitude of a double, from its bits. -/
def shortestOfBits (bits : Nat) : Digits :=
  let (m, q) := binaryOfBits bits
  if m = 0 then ⟨0, 0⟩
  else (Interval.ofBinary m q (m == leastNormal && decide (-1074 < q))).shortest

end TurtleAssist.Decimal
