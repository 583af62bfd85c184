import TurtleAssist.Json.NumberReader
import TurtleAssist.Json.StringReader

/-!
# Passing over a value

The value of an unknown key is passed over, whatever it is. It must be well
formed, but nothing is made of it: a number may have any size, and the halves
of an escaped pair are not checked. The brackets that are open are kept on a
stack, so a value may be nested to any depth.
-/

namespace TurtleAssist.Json

/-- A bracket that is open while a value is passed over. -/
inductive Bracket where
  | array
  | object
deriving DecidableEq, Repr

/-- The character that closes a bracket. -/
def Bracket.closing : Bracket → Char
  | .array => ']'
  | .object => '\x7d'

/-- The text ends while a bracket is open. -/
def Bracket.unclosed : Bracket → Cause
  | .array => .endOfArray
  | .object => .endOfObject

/-- Something other than a comma or the closing bracket follows a value. -/
def Bracket.noComma : Bracket → Cause
  | .array => .expectedCommaOrBracket
  | .object => .expectedCommaOrBrace

/-- What comes next while a value is passed over. -/
inductive Skipping where
  /-- A value. -/
  | value
  /-- The first value of a bracket, or its end. -/
  | opened
  /-- A comma or the end of a bracket. -/
  | after
deriving DecidableEq, Repr

namespace Reader

/-- Passes over the escape after a backslash. -/
def skipEscape : Reader Unit := do
  match ← peek with
  | none => failHere .endOfString
  | some c =>
    if ['"', '\\', '/', 'b', 'f', 'n', 'r', 't'].contains c then skip
    else if c = 'u' then do
      skip
      let _ ← hexEscape
    else failAhead .invalidEscape

/-- Passes over a string up to its closing quote. The rounds are bounded by the text
that was left at the start. -/
def skipStringBody : List Char → Reader Unit
  | [] => failHere .endOfString
  | _ :: bound => do
    match ← peek with
    | none => failHere .endOfString
    | some c =>
      if c = '"' then skip
      else if c = '\\' then
        skip
        skipEscape
        skipStringBody bound
      else if c.toNat < 0x20 then failHere .controlCharacter
      else
        skip
        skipStringBody bound

/-- Passes over a string after its opening quote. -/
def skipString : Reader Unit := do
  skipStringBody (← remaining)

/-- Passes over an exponent. -/
def skipExponent : Reader Unit := do
  skip
  match ← peek with
  | some '+' => skip
  | some '-' => skip
  | _ => pure ()
  if (← digits).isEmpty then failAhead .invalidNumber

/-- Passes over an exponent, if there is one. -/
def skipExponentOr : Reader Unit := do
  match ← peek with
  | some 'e' => skipExponent
  | some 'E' => skipExponent
  | _ => pure ()

/-- Passes over a fraction and an exponent, if they are there. -/
def skipFractionOr : Reader Unit := do
  match ← peek with
  | some '.' =>
    skip
    if (← digits).isEmpty then failAhead .invalidNumber
    skipExponentOr
  | _ => skipExponentOr

/-- Passes over a number after its minus sign. -/
def skipNumber : Reader Unit := do
  match (← peek).bind digitValue? with
  | none => failAhead .invalidNumber
  | some first =>
    if first = 0 then
      skip
      if ((← peek).bind digitValue?).isSome then failAhead .invalidNumber
    else
      let _ ← digits
    skipFractionOr

/-- Passes over a value that holds no others, given its first character. -/
def skipScalar (c : Char) : Reader Unit := do
  if c = 'n' then
    skip
    literal ['u', 'l', 'l']
  else if c = 't' then
    skip
    literal ['r', 'u', 'e']
  else if c = 'f' then
    skip
    literal ['a', 'l', 's', 'e']
  else if c = '-' then
    skip
    skipNumber
  else if (digitValue? c).isSome then skipNumber
  else if c = '"' then
    skip
    skipString
  else failAhead .expectedValue

/-- Passes over the key of a member and the colon after it. -/
def skipKey : Reader Unit := do
  match ← next with
  | some '"' => skip
  | some _ => failAhead .keyMustBeString
  | none => failAhead .endOfObject
  skipString
  match ← next with
  | some ':' => skip
  | some _ => failAhead .expectedColon
  | none => failAhead .endOfObject

/-- Passes over the key before a value, if the innermost bracket holds members. -/
def skipKeyIn : Bracket → Reader Unit
  | .array => pure ()
  | .object => skipKey

/-- Passes over what is left of a value inside open brackets, the innermost first.
Of two steps at least one takes a character. -/
def skipFrom : Nat → Skipping → List Bracket → Reader Unit
  | 0, _, _ => failHere .endOfValue
  | n + 1, .value, brackets => do
    match ← next with
    | none => failAhead .endOfValue
    | some '[' =>
      skip
      skipFrom n .opened (.array :: brackets)
    | some '\x7b' =>
      skip
      skipFrom n .opened (.object :: brackets)
    | some c =>
      skipScalar c
      skipFrom n .after brackets
  | _ + 1, .opened, [] => pure ()
  | n + 1, .opened, bracket :: brackets => do
    match ← next with
    | none => failAhead bracket.unclosed
    | some c =>
      if c = bracket.closing then
        skip
        skipFrom n .after brackets
      else
        skipKeyIn bracket
        skipFrom n .value (bracket :: brackets)
  | _ + 1, .after, [] => pure ()
  | n + 1, .after, bracket :: brackets => do
    match ← next with
    | none => failAhead bracket.unclosed
    | some c =>
      if c = bracket.closing then
        skip
        skipFrom n .after brackets
      else if c = ',' then
        skip
        skipKeyIn bracket
        skipFrom n .value (bracket :: brackets)
      else failAhead bracket.noComma

/-- Passes over a value. -/
def skipValue : Reader Unit := do
  skipFrom (2 * ((← remaining).length + 1)) .value []

end Reader

end TurtleAssist.Json
