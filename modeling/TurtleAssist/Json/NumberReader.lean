import TurtleAssist.Decimal.Form
import TurtleAssist.Json.Reader

/-!
# Reading JSON numbers

No field of a catalog is a number, so a number is only ever read to say what
was found in the place of something else. It is an integer if it is written
without fraction and exponent and fits into sixty-four bits, unsigned or, if
negative, signed; all others are doubles.

A double is computed from as many leading digits as fit into sixty-four bits,
multiplied or divided by a power of ten. Digits beyond those only count for
their place. This is not always the double nearest to what is written, but it
is the one that the message names.
-/

namespace TurtleAssist.Json

/-- The value of a decimal digit. -/
def digitValue? (c : Char) : Option Nat :=
  if '0' ≤ c ∧ c ≤ '9' then some (c.toNat - '0'.toNat) else none

/-- The values of the digits in front of a text. -/
def leadingDigits : List Char → List Nat
  | [] => []
  | c :: rest =>
    match digitValue? c with
    | some d => d :: leadingDigits rest
    | none => []

/-- Adds digits to a number as long as it stays within a limit, and returns the
digits that are left. -/
def accumulate (limit : Nat) : Nat → List Nat → Nat × List Nat
  | n, [] => (n, [])
  | n, d :: digits =>
    if n * 10 + d ≤ limit then accumulate limit (n * 10 + d) digits else (n, d :: digits)

/-- The largest number of sixty-four bits. -/
def largestUnsigned : Nat := 0xFFFFFFFFFFFFFFFF

/-- The largest magnitude of a negative number of sixty-four bits. -/
def largestMagnitude : Nat := 0x8000000000000000

/-- The largest exponent that is kept. -/
def largestExponent : Nat := 0x7FFFFFFF

/-- A power of ten as a double. -/
def powerOfTen (n : Nat) : Float :=
  Float.ofScientific 1 false n

/-- The value multiplied by a power of ten, or nothing if it is too large. A power
below the range of doubles is applied in steps. -/
def scaled? (value : Float) (exponent : Int) : Option Float :=
  if 0 ≤ exponent then
    if exponent ≤ 308 then
      let product := value * powerOfTen exponent.toNat
      if product.isInf then none else some product
    else if value == 0 then some value
    else none
  else if -308 ≤ exponent then some (value / powerOfTen exponent.natAbs)
  else if value == 0 then some value
  else scaled? (value / powerOfTen 308) (exponent + 308)
termination_by exponent.natAbs
decreasing_by omega

/-- What is found when a double is. -/
def Found.ofFloat (value : Float) : Found :=
  .decimal (Decimal.formOfBits value.toBits.toNat)

/-- The input after so many characters. -/
def Input.drop : Nat → Input → Input
  | 0, input => input
  | n + 1, input => Input.drop n input.tail

namespace Reader

/-- Takes the digits in front. -/
def digits : Reader (List Nat) := fun input =>
  let ds := leadingDigits input.rest
  .ok (ds, input.drop ds.length)

/-- The double with a sign, from its leading digits and an exponent. -/
def double (negative : Bool) (significand : Nat) (exponent : Int) : Reader Found := do
  match scaled? (UInt64.ofNat significand).toFloat exponent with
  | some value => return .ofFloat (if negative then -value else value)
  | none => failHere .numberOutOfRange

/-- Takes a number from its exponent on. -/
def exponentPart (negative : Bool) (significand : Nat) (exponent : Int) : Reader Found := do
  skip
  let negativeExponent ← do
    match ← peek with
    | some '-' => do skip; pure true
    | some '+' => do skip; pure false
    | _ => pure false
  match ← peek with
  | none => failHere .endOfValue
  | some c =>
    if (digitValue? c).isNone then failAhead .invalidNumber
    else
      let before ← get
      let ds ← digits
      let (written, left) := accumulate largestExponent 0 ds
      if left.isEmpty then
        double negative significand
          (if negativeExponent then exponent - written else exponent + written)
      else if significand ≠ 0 ∧ !negativeExponent then
        -- noticed right after the digit that is too much
        throw ((before.drop (ds.length - left.length + 1)).failHere .numberOutOfRange)
      else return .ofFloat (if negative then -0 else 0)

/-- Takes a number from its fraction or exponent on, if there is one. -/
def exponentOr (negative : Bool) (significand : Nat) (exponent : Int) : Reader Found := do
  match ← peek with
  | some 'e' => exponentPart negative significand exponent
  | some 'E' => exponentPart negative significand exponent
  | _ => double negative significand exponent

/-- Takes a number from its decimal point on. -/
def fractionPart (negative : Bool) (significand : Nat) (exponent : Int) : Reader Found := do
  skip
  let ds ← digits
  if ds.isEmpty then
    match ← peek with
    | none => failAhead .endOfValue
    | some _ => failAhead .invalidNumber
  else
    let (significand, left) := accumulate largestUnsigned significand ds
    exponentOr negative significand (exponent - (ds.length - left.length : Nat))

/-- What an integer is found to be. -/
def Found.ofInteger (negative : Bool) (n : Nat) : Found :=
  if !negative then .integer n
  else if n = 0 ∨ largestMagnitude < n then .ofFloat (-(UInt64.ofNat n).toFloat)
  else .integer (-n)

/-- Takes a number, after its minus sign if it has one. -/
def number (negative : Bool) : Reader Found := do
  match ← peek with
  | none => failHere .endOfValue
  | some c =>
    match digitValue? c with
    | none => failAhead .invalidNumber
    | some first => do
      let ds ←
        if first = 0 then do
          skip
          if ((← peek).bind digitValue?).isSome then failAhead .invalidNumber
          else pure [0]
        else digits
      let (significand, left) := accumulate largestUnsigned 0 ds
      match ← peek with
      | some '.' => fractionPart negative significand left.length
      | some 'e' => exponentPart negative significand left.length
      | some 'E' => exponentPart negative significand left.length
      | _ =>
        if left.isEmpty then return Found.ofInteger negative significand
        else double negative significand left.length

end Reader

end TurtleAssist.Json
