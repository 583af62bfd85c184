import TurtleAssist.Unicode.DecimalDigit
import TurtleAssist.Unicode.WhiteSpace

/-!
# Character sets

The patterns of this library ask of a single character whether it belongs to a
set. The sets are the decimal digits, the white space and its complement, all
characters but the line feed, and those listed between brackets, taken as they
are or complemented. Each has a written form, the one under which it appears in
the text of a pattern.
-/

namespace TurtleAssist.Pattern

open Unicode (isDigit isWhiteSpace)

/-- What a bracketed set lists. -/
inductive SetItem where
  /-- One character. -/
  | single (c : Char)
  /-- The characters from the first to the last. -/
  | range (first last : Char)
  /-- All white space. -/
  | space
deriving DecidableEq, Repr

/-- Whether the item lists the character. -/
def SetItem.contains (item : SetItem) (c : Char) : Bool :=
  match item with
  | .single x => c == x
  | .range first last => first ≤ c && c ≤ last
  | .space => isWhiteSpace c

/-- The characters that mean something between brackets. -/
def bracketSpecials : List Char :=
  ['\\', '[', ']', '-', '^', '&', '~']

/-- The written form of an item. -/
def SetItem.source : SetItem → List Char
  | .single c => if bracketSpecials.contains c then ['\\', c] else [c]
  | .range first last => [first, '-', last]
  | .space => ['\\', 's']

/-- The number of blocks of code points that the item takes. -/
def SetItem.blocks : SetItem → Nat
  | .single _ => 1
  | .range _ _ => 1
  | .space => Unicode.whiteSpace.length

/-- A set of characters. -/
inductive CharSet where
  | digit
  | space
  | nonSpace
  /-- Every character but the line feed. -/
  | inLine
  | oneOf (items : List SetItem)
  | noneOf (items : List SetItem)
deriving DecidableEq, Repr

namespace CharSet

/-- Whether the character belongs to the set. -/
def contains (set : CharSet) (c : Char) : Bool :=
  match set with
  | .digit => isDigit c
  | .space => isWhiteSpace c
  | .nonSpace => !isWhiteSpace c
  | .inLine => c != '\n'
  | .oneOf items => items.any (·.contains c)
  | .noneOf items => !items.any (·.contains c)

/-- The written form of the set. -/
def source : CharSet → List Char
  | .digit => ['\\', 'd']
  | .space => ['\\', 's']
  | .nonSpace => ['\\', 'S']
  | .inLine => ['.']
  | .oneOf items => '[' :: items.flatMap SetItem.source ++ [']']
  | .noneOf items => '[' :: '^' :: items.flatMap SetItem.source ++ [']']

/-- The number of blocks of code points that the items take together. -/
def blocksOf (items : List SetItem) : Nat :=
  items.foldr (fun item n => item.blocks + n) 0

/-- The number of blocks of code points that the set takes: a complement has at
most one more than what it leaves out. -/
def blocks : CharSet → Nat
  | .digit => Unicode.decimalDigits.length
  | .space => Unicode.whiteSpace.length
  | .nonSpace => Unicode.whiteSpace.length + 1
  | .inLine => 2
  | .oneOf items => blocksOf items
  | .noneOf items => blocksOf items + 1

/-- The ASCII letters. -/
def letter : CharSet :=
  .oneOf [.range 'a' 'z', .range 'A' 'Z']

/-- What may follow the first letter of a name: ASCII letters and digits and the
hyphen. -/
def nameTail : CharSet :=
  .oneOf [.range 'a' 'z', .range 'A' 'Z', .range '0' '9', .single '-']

/-- Every character but the parentheses. -/
def nonParen : CharSet :=
  .noneOf [.single '(', .single ')']

end CharSet

end TurtleAssist.Pattern
