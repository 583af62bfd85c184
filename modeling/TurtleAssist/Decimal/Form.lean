import TurtleAssist.Decimal.Shortest

/-!
# How a decimal is written

A floating-point number is written with its shortest digits and always so that
it does not look like an integer. Numbers from `0.00001` up to below `10 ^ 16`
are written by place, with a point and at least one digit on both sides of it.
The others are written with one digit before the point and a signed exponent.
-/

namespace TurtleAssist.Decimal

/-- The digits by place or with an exponent, without a sign. -/
def Digits.form (digits : Digits) : List Char :=
  let ds := Nat.toDigits 10 digits.significand
  -- the number of digits before the point
  let whole : Int := ds.length + digits.exponent
  if 0 ≤ digits.exponent ∧ whole ≤ 16 then
    ds ++ List.replicate digits.exponent.toNat '0' ++ ['.', '0']
  else if 0 < whole ∧ whole ≤ 16 then
    ds.take whole.toNat ++ '.' :: ds.drop whole.toNat
  else if -5 < whole ∧ whole ≤ 0 then
    ['0', '.'] ++ List.replicate (-whole).toNat '0' ++ ds
  else
    let point := if ds.length = 1 then ds else ds.take 1 ++ '.' :: ds.drop 1
    let sign := if whole - 1 < 0 then '-' else '+'
    point ++ 'e' :: sign :: Nat.toDigits 10 (whole - 1).natAbs

/-- The weight of the bit that a double has for its sign. -/
def signBit : Nat := 0x8000000000000000

/-- The written form of a finite double, from its bits. -/
def formOfBits (bits : Nat) : String :=
  let sign := if signBit ≤ bits then ['-'] else []
  String.ofList (sign ++ (shortestOfBits bits).form)

end TurtleAssist.Decimal
