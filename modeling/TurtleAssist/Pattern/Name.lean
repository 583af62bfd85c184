import TurtleAssist.Pattern.Match
import TurtleAssist.Pattern.Source

/-!
# Patterns for sets of names

A set of names is recognised by the alternatives of its names. Where the
pattern is not held to the end of the text, a short name must not hide a longer
one that begins with it, so the alternatives are ordered by their length in
bytes, the longest first, and names of equal length by their characters. The
order leaves no choice, and empty and repeated names are dropped: the pattern
depends on the set alone.
-/

namespace TurtleAssist.Pattern

/-- The order of alternatives: longer names first, equally long ones by their
characters. -/
def goesBefore (a b : String) : Bool :=
  b.utf8ByteSize < a.utf8ByteSize || a.utf8ByteSize == b.utf8ByteSize && decide (a ≤ b)

/-- The nonempty names of a list, each once, in the order of alternatives. -/
def arranged (names : List String) : List String :=
  ((names.filter (· != "")).mergeSort goesBefore).eraseReps

/-- Recognises one of the names, the longest that fits. -/
def alternation (names : List String) : Pattern :=
  anyOf ((arranged names).map name)

/-- Recognises exactly the names of a list: a text is matched if it is one of them
from its start to its end. With no name to recognise, the pattern asks for a
character before the start of the text, so that it never matches. -/
def exactNames (names : List String) : Pattern :=
  if (arranged names).isEmpty then text "a" ++ .textStart
  else .textStart ++ .group (alternation names) ++ .textEnd

end TurtleAssist.Pattern
