import TurtleAssist.Json.NumberReader
import TurtleAssist.Json.StringReader
import TurtleAssist.Proofs.Json.Reading

/-!
# The grammar of JSON

What a JSON text stands for is a tree, and each tree can be written in many ways: with any
white space between the tokens, and with escapes in place of characters. `IsWritten` says
that a text is one of these ways, with no reader in sight.

The grammar is made of phrases. A phrase reaches from one rest of a text to a later one, so
`Writes tree s t` says that `s` begins with a written form of the tree and that `t` is what
follows. In this way one phrase is put after another without taking the text apart.
-/

namespace TurtleAssist.Json

/-- What a JSON text stands for. Of a number its numeral is kept. -/
inductive Tree where
  | null
  | bool (value : Bool)
  | number (numeral : List Char)
  | string (value : String)
  | array (items : List Tree)
  | object (members : List (String × Tree))

/-! ## Strings -/

/-- The escapes of one letter, with the characters that they stand for. -/
def letterEscapes : List (Char × Char) :=
  [ ('"', '"'), ('\\', '\\'), ('/', '/'), ('b', '\x08'), ('f', '\x0c'), ('n', '\n'),
    ('r', '\r'), ('t', '\t') ]

/-- **A character in a string**: itself, or escaped by a letter, by its number in base
sixteen, or by the numbers of the two halves that stand for it. -/
inductive WritesChar : Char → List Char → List Char → Prop
  | plain {c : Char} (hquote : c ≠ '"') (hbackslash : c ≠ '\\') (hcontrol : 0x20 ≤ c.toNat)
      (t : List Char) : WritesChar c (c :: t) t
  | letter {letter c : Char} (h : (letter, c) ∈ letterEscapes) (t : List Char) :
      WritesChar c ('\\' :: letter :: t) t
  | numbered {x y z w c : Char} (h : hexValueOf? x y z w = some c.toNat) (t : List Char) :
      WritesChar c ('\\' :: 'u' :: x :: y :: z :: w :: t) t
  | halves {x y z w x' y' z' w' c : Char} {high low : Nat}
      (hhigh : hexValueOf? x y z w = some high) (hlow : hexValueOf? x' y' z' w' = some low)
      (hhighHalf : 0xD800 ≤ high ∧ high ≤ 0xDBFF) (hlowHalf : 0xDC00 ≤ low ∧ low ≤ 0xDFFF)
      (hc : c.toNat = (high - 0xD800) * 0x400 + (low - 0xDC00) + 0x10000) (t : List Char) :
      WritesChar c
        ('\\' :: 'u' :: x :: y :: z :: w :: '\\' :: 'u' :: x' :: y' :: z' :: w' :: t) t

/-- **A string after its opening quote**: its characters, and the closing quote. -/
inductive WritesChars : List Char → List Char → List Char → Prop
  | close (t : List Char) : WritesChars [] ('"' :: t) t
  | char {c : Char} {cs s t u : List Char} (hc : WritesChar c s t) (h : WritesChars cs t u) :
      WritesChars (c :: cs) s u

/-! ## Numbers -/

/-- Decimal digits. -/
def IsDigits (s : List Char) : Prop :=
  ∀ c ∈ s, (digitValue? c).isSome = true

/-- The part of a numeral before the point: zero, or digits of which the first is not
zero. -/
inductive IsWhole : List Char → Prop
  | zero : IsWhole ['0']
  | nonzero {c : Char} {s : List Char} (hc : IsDigits [c]) (hzero : c ≠ '0') (h : IsDigits s) :
      IsWhole (c :: s)

/-- The part of a numeral from its point on, if it has one. -/
inductive IsFraction : List Char → Prop
  | none : IsFraction []
  | point {s : List Char} (hne : s ≠ []) (h : IsDigits s) : IsFraction ('.' :: s)

/-- The exponent of a numeral, if it has one. -/
inductive IsExponent : List Char → Prop
  | none : IsExponent []
  | power {mark : Char} {sign s : List Char} (hmark : mark = 'e' ∨ mark = 'E')
      (hsign : sign = [] ∨ sign = ['+'] ∨ sign = ['-']) (hne : s ≠ []) (h : IsDigits s) :
      IsExponent (mark :: (sign ++ s))

/-- **A numeral.** -/
inductive IsNumeral : List Char → Prop
  | parts {sign whole fraction exponent : List Char} (hsign : sign = [] ∨ sign = ['-'])
      (hwhole : IsWhole whole) (hfraction : IsFraction fraction)
      (hexponent : IsExponent exponent) :
      IsNumeral (sign ++ (whole ++ (fraction ++ exponent)))

/-! ## Values -/

/-- What stands between the beginning of an array or an object, or what has come before,
and the next item or member: white space, and a comma unless it is the first. -/
inductive Separated : Bool → List Char → List Char → Prop
  | first {s t : List Char} (h : Blanks s t) : Separated true s t
  | comma {s t u : List Char} (h : Blanks s (',' :: t)) (h' : Blanks t u) : Separated false s u

mutual

/-- **A written form of a tree** stands between the beginning of a text and the rest. -/
inductive Writes : Tree → List Char → List Char → Prop
  | null (t : List Char) : Writes .null (['n', 'u', 'l', 'l'] ++ t) t
  | yes (t : List Char) : Writes (.bool true) (['t', 'r', 'u', 'e'] ++ t) t
  | no (t : List Char) : Writes (.bool false) (['f', 'a', 'l', 's', 'e'] ++ t) t
  | number {numeral : List Char} (h : IsNumeral numeral) (t : List Char) :
      Writes (.number numeral) (numeral ++ t) t
  | string {value : String} {s t : List Char} (h : WritesChars value.toList s t) :
      Writes (.string value) ('"' :: s) t
  | array {items : List Tree} {s t : List Char} (h : WritesItems true items s t) :
      Writes (.array items) ('[' :: s) t
  | object {members : List (String × Tree)} {s t : List Char}
      (h : WritesMembers true members s t) : Writes (.object members) ('\x7b' :: s) t

/-- The items of an array, to the end of the array. No item has come before if the first
one is to follow. -/
inductive WritesItems : Bool → List Tree → List Char → List Char → Prop
  | close {first : Bool} {s t : List Char} (h : Blanks s (']' :: t)) : WritesItems first [] s t
  | item {first : Bool} {item : Tree} {items : List Tree} {s t u v : List Char}
      (hbefore : Separated first s t) (hitem : Writes item t u)
      (h : WritesItems false items u v) : WritesItems first (item :: items) s v

/-- The members of an object, to the end of the object. -/
inductive WritesMembers : Bool → List (String × Tree) → List Char → List Char → Prop
  | close {first : Bool} {s t : List Char} (h : Blanks s ('\x7d' :: t)) :
      WritesMembers first [] s t
  | member {first : Bool} {key : String} {value : Tree} {members : List (String × Tree)}
      {s t u v w x y : List Char} (hbefore : Separated first s ('"' :: t))
      (hkey : WritesChars key.toList t u) (hcolon : Blanks u (':' :: v)) (hblank : Blanks v w)
      (hvalue : Writes value w x) (h : WritesMembers false members x y) :
      WritesMembers first ((key, value) :: members) s y

end

/-- **A text is written for a tree**, with white space around the value. -/
def IsWritten (tree : Tree) (text : List Char) : Prop :=
  ∃ s t, Blanks text s ∧ Writes tree s t ∧ Blanks t []

end TurtleAssist.Json
