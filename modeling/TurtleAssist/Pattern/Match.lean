import TurtleAssist.Pattern.Outlook
import TurtleAssist.Pattern.Prospect

/-!
# Matches of a pattern in a line

The match of a pattern at a place is the preferred way through it. A line is
searched from left to right: the match in a line is the one at the first place
where there is one, even if a longer or an earlier ending would be found
otherwise. A line in which a glance shows that there is none is not searched.
-/

namespace TurtleAssist

open Text (Span)

namespace Pattern

/-- A stretch of a line where a pattern was found, and what was captured there. -/
structure Match where
  span : Span
  captures : List Capture
deriving DecidableEq, Repr

/-- The stretch last remembered under a label, if any. -/
def Match.capture? (found : Match) (label : String) : Option Capture :=
  (found.captures.filter (·.label == label)).getLast?

/-- The match of a pattern at a place. -/
def matchAt? (pattern : Pattern) (place : Place) : Option Match :=
  (pattern.ways place).head?.map fun way => ⟨⟨place.offset, way.stop.offset⟩, way.captures⟩

/-- The matches at all places where there is one, from left to right. -/
def candidates (pattern : Pattern) (line : List Char) : List Match :=
  if pattern.isHopelessFrom 0 line then []
  else
    (pattern.outcomes line).filterMap fun (start, outcome) =>
      outcome.map fun outcome => ⟨⟨start, outcome.stop⟩, outcome.captures⟩

/-- The match of a pattern in a line. -/
def find? (pattern : Pattern) (line : List Char) : Option Match :=
  (pattern.candidates line).head?

/-- Whether the pattern has a match in the line. -/
def isIn (pattern : Pattern) (line : List Char) : Bool :=
  (pattern.find? line).isSome

/-- Of matches from left to right, those that do not overlap: each begins where the one
before it ends, or later. -/
def disjoint (resume : Nat) : List Match → List Match
  | [] => []
  | found :: others =>
    if found.span.start < resume then disjoint resume others
    else found :: disjoint found.span.stop others

/-- The matches in a line, from left to right and without overlap. -/
def findAll (pattern : Pattern) (line : List Char) : List Match :=
  disjoint 0 (pattern.candidates line)

end Pattern

end TurtleAssist
