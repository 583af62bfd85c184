import TurtleAssist.Json.Reader
import TurtleAssist.Text.Span

/-!
# Reading JSON strings

A string is read after its opening quote. Characters stand for themselves
except the quote, which ends the string, the backslash, which begins an escape,
and the controls below the space, which are refused. An escape is a letter for
one character or `u` with four digits of base sixteen. Two such escapes in a
row can make one character of the higher planes, and neither half may stand
alone.
-/

namespace TurtleAssist.Json

/-- The value of a digit of base sixteen. -/
def hexValue? (c : Char) : Option Nat :=
  if '0' ≤ c ∧ c ≤ '9' then some (c.toNat - '0'.toNat)
  else if 'a' ≤ c ∧ c ≤ 'f' then some (c.toNat - 'a'.toNat + 10)
  else if 'A' ≤ c ∧ c ≤ 'F' then some (c.toNat - 'A'.toNat + 10)
  else none

/-- The value of four digits of base sixteen. -/
def hexValueOf? (a b c d : Char) : Option Nat := do
  let a ← hexValue? a
  let b ← hexValue? b
  let c ← hexValue? c
  let d ← hexValue? d
  return ((a * 16 + b) * 16 + c) * 16 + d

/-- The position after so many bytes, which may end inside a character. -/
def Position.afterBytes (position : Position) : Nat → List Char → Position
  | _, [] => position
  | n, c :: rest =>
    if c.utf8Size ≤ n then (position.after c).afterBytes (n - c.utf8Size) rest
    else ⟨position.line, position.column + n⟩

/-- The first half of a pair that stands for one character. -/
def isHighHalf (n : Nat) : Bool :=
  0xD800 ≤ n && n ≤ 0xDBFF

/-- The second half of a pair that stands for one character. -/
def isLowHalf (n : Nat) : Bool :=
  0xDC00 ≤ n && n ≤ 0xDFFF

/-- The character that two halves stand for. -/
def joinHalves (high low : Nat) : Char :=
  Char.ofNat ((high - 0xD800) * 0x400 + (low - 0xDC00) + 0x10000)

namespace Reader

/-- Takes four bytes that are digits of base sixteen. -/
def hexEscape : Reader Nat := fun input =>
  let value? :=
    match input.rest with
    | a :: b :: c :: d :: _ => hexValueOf? a b c d
    | _ => none
  match value? with
  | some value => .ok (value, input.tail.tail.tail.tail)
  | none =>
    let position := input.position.afterBytes 4 input.rest
    if Text.bytes (input.rest.take 4) < 4 then .error ⟨.endOfString, position⟩
    else .error ⟨.invalidEscape, position⟩

/-- Passes over a character that a half must be followed by. -/
def expectInEscape (expected : Char) : Reader Unit := do
  match ← peek with
  | none => failHere .endOfString
  | some c => if c = expected then skip else failAhead .unexpectedEndOfEscape

/-- Takes the character of an escape by number, after the letter. -/
def numberedEscape : Reader Char := do
  let high ← hexEscape
  if isLowHalf high then failHere .loneSurrogate
  else if isHighHalf high then
    expectInEscape '\\'
    expectInEscape 'u'
    let low ← hexEscape
    if isLowHalf low then return joinHalves high low else failHere .loneSurrogate
  else return Char.ofNat high

/-- Takes the character of an escape, after the backslash. -/
def escape : Reader Char := do
  match ← peek with
  | none => failHere .endOfString
  | some c =>
    match c with
    | '"' => do skip; return '"'
    | '\\' => do skip; return '\\'
    | '/' => do skip; return '/'
    | 'b' => do skip; return '\x08'
    | 'f' => do skip; return '\x0c'
    | 'n' => do skip; return '\n'
    | 'r' => do skip; return '\r'
    | 't' => do skip; return '\t'
    | 'u' => do skip; numberedEscape
    | _ => failAhead .invalidEscape

/-- Takes the characters of a string up to its closing quote. Those taken before are
in front, the last one first. The rounds are bounded by the text that was left at
the start. -/
def stringBody : List Char → List Char → Reader String
  | [], _ => failHere .endOfString
  | _ :: bound, taken => do
    match ← peek with
    | none => failHere .endOfString
    | some c =>
      if c = '"' then
        skip
        return String.ofList taken.reverse
      else if c = '\\' then
        skip
        let c ← escape
        stringBody bound (c :: taken)
      else if c.toNat < 0x20 then failAhead .controlCharacter
      else
        skip
        stringBody bound (c :: taken)

/-- Takes a string, after its opening quote. -/
def string : Reader String := do
  stringBody (← remaining) []

end Reader

end TurtleAssist.Json
