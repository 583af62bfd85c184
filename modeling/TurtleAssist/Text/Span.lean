/-!
# Spans of a line, and their units

A *span* is a stretch of a line, by the number of characters before its start
and before its stop. Two other units are in use outside: a tool that reads the
line as bytes counts the bytes of its UTF-8 encoding, and an editor counts
UTF-16 code units, of which a character beyond the first plane takes two. A
position in either unit is the measure of the characters before it, so both
always lie between characters.
-/

namespace TurtleAssist.Text

/-- A stretch of a line, in characters. -/
structure Span where
  start : Nat
  stop : Nat
deriving DecidableEq, Repr

/-- The number of bytes that encode the characters in UTF-8. -/
def bytes (text : List Char) : Nat :=
  text.foldr (fun c n => c.utf8Size + n) 0

/-- The number of UTF-16 code units of a character. -/
def units16 (c : Char) : Nat :=
  if c.toNat < 0x10000 then 1 else 2

/-- The number of code units that encode the characters in UTF-16. -/
def units (text : List Char) : Nat :=
  text.foldr (fun c n => units16 c + n) 0

/-- The characters of a line that a span covers. -/
def Span.text (span : Span) (line : List Char) : List Char :=
  (line.drop span.start).take (span.stop - span.start)

/-- The same span counted in bytes of the line. -/
def Span.inBytes (span : Span) (line : List Char) : Span :=
  ⟨bytes (line.take span.start), bytes (line.take span.stop)⟩

/-- The same span counted in UTF-16 code units of the line. -/
def Span.inUnits (span : Span) (line : List Char) : Span :=
  ⟨units (line.take span.start), units (line.take span.stop)⟩

end TurtleAssist.Text
