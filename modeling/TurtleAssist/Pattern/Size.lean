import TurtleAssist.Pattern.Basic
import TurtleAssist.Text.Span

/-!
# The size of a pattern

Patterns are built from data: a call pattern repeats its argument as often as a
command has arguments, and the pattern of the known names holds all of them. A
bound on their size keeps a careless catalog from using up the memory. The size
is an estimate of the bytes that a matcher with one state per literal byte and
per block of code points would take, each repetition copied out.
-/

namespace TurtleAssist

namespace Pattern

/-- The estimated bytes of one state. -/
def stateBytes : Nat := 32

/-- The estimated bytes of a character set, with an entry and a transition for
each block. -/
def CharSet.size (set : CharSet) : Nat :=
  2 * stateBytes * set.blocks

/-- The number of copies of a body that a repetition takes. -/
def Quantifier.copies : Quantifier → Nat
  | .between _ most => most
  | .atLeast least => least + 1
  | _ => 1

/-- The estimated bytes of a pattern. -/
def size : Pattern → Nat
  | .empty => stateBytes
  | .literal _ text => stateBytes * Text.bytes text
  | .one set => set.size
  | .run set _ _ => stateBytes + set.size
  | .textStart => stateBytes
  | .textEnd => stateBytes
  | .seq first second => first.size + second.size
  | .alt preferred other => stateBytes + preferred.size + other.size
  | .group body => body.size
  | .capture _ body => 2 * stateBytes + body.size
  | .times body quantifier => quantifier.copies * (stateBytes + body.size)

/-- The largest size of a pattern in use. -/
def sizeLimit : Nat := 10485760

end Pattern

/-- Why a pattern is refused. -/
inductive PatternError where
  | tooLarge
deriving DecidableEq, Repr

/-- The message for a pattern that is refused. -/
def PatternError.message : PatternError → String
  | .tooLarge => "invalid rule pattern: Compiled regex exceeds size limit of "
      ++ toString Pattern.sizeLimit ++ " bytes."

/-- The pattern itself, if it is not too large to be used. -/
def Pattern.checked (pattern : Pattern) : Except PatternError Pattern :=
  if pattern.size ≤ Pattern.sizeLimit then .ok pattern else .error .tooLarge

end TurtleAssist
