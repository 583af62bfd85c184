import TurtleAssist.Unicode.Block

/-!
# White space

White space separates the tokens of a script wherever a pattern or a parameter
list asks for it. The class is the property White_Space of the Unicode
standard, version 16.0: it holds the line separators and the ideographic
space, and it leaves out the zero-width space and the byte order mark, which
join rather than separate.
-/

namespace TurtleAssist.Unicode

/-- The characters with the property White_Space. -/
def whiteSpace : List Block :=
  [ (0x9, 0xD), (0x20, 0x20), (0x85, 0x85), (0xA0, 0xA0), (0x1680, 0x1680), (0x2000, 0x200A),
    (0x2028, 0x2029), (0x202F, 0x202F), (0x205F, 0x205F), (0x3000, 0x3000) ]

/-- White space, by the property White_Space. -/
def isWhiteSpace (c : Char) : Bool :=
  contains whiteSpace c

-- twenty-five characters, in order
example : size whiteSpace = 25 ∧ Ordered whiteSpace := by decide +kernel

end TurtleAssist.Unicode
