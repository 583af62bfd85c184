/-!
# Diagnostics

A diagnostic reports one problem on one line: where it is, what it says, how
serious it is, and which tier of rules found it.
-/

namespace TurtleAssist

/-- How serious a problem is. -/
inductive Severity where
  | error
  | warning
  | information
deriving DecidableEq, Repr, Inhabited

/-- The groups of rules, in the order in which they are tried. -/
inductive Tier where
  | style
  | structural
  | argumentCount
  | argumentType
  | unknownIdentifier
deriving DecidableEq, Repr, Inhabited

/-- The place of a tier in the order. -/
def Tier.rank : Tier → Nat
  | .style => 0
  | .structural => 1
  | .argumentCount => 2
  | .argumentType => 3
  | .unknownIdentifier => 4

/-- A problem found on a line. -/
structure Diagnostic where
  /-- The line, counted from zero. -/
  line : Nat
  /-- The column where it begins, in UTF-16 code units. -/
  startColumn : Nat
  /-- The column where it ends, in UTF-16 code units. -/
  endColumn : Nat
  message : String
  severity : Severity
  tier : Tier
deriving DecidableEq, Repr, Inhabited

/-- The code of every diagnostic. -/
def Diagnostic.code : String := "turtle"

end TurtleAssist
