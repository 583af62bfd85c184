import TurtleAssist.Pattern.CharSet

/-!
# Patterns

Everything this library recognises in a line it recognises by a *pattern*: the
definitions of a document, the problems of a line, the known names. A pattern
is a tree whose leaves are literal texts, character sets, runs of a set and the
two ends of the text, and whose nodes put patterns one after another, side by
side, or repeat them.

Grouping is a node of its own although it changes nothing about what is
recognised, so that the written form of a pattern is read off the tree by
concatenation alone (`Pattern.source`), without deciding where parentheses are
needed.

What a pattern recognises, and which of several ways it prefers, is the matter
of the module on matches.
-/

namespace TurtleAssist

/-- How a literal text is written. -/
inductive Pattern.Spelling where
  /-- A backslash goes before the characters that would be read otherwise. -/
  | plain
  /-- A backslash goes before every character that is special anywhere in a
  pattern, as befits a name that is not known beforehand. -/
  | escaped
deriving DecidableEq, Repr

/-- How often a pattern is repeated; all of them prefer more over fewer. -/
inductive Pattern.Quantifier where
  | optional
  | star
  | plus
  | between (least most : Nat)
  | atLeast (least : Nat)
deriving DecidableEq, Repr

/-- A text to be recognised in a line. -/
inductive Pattern where
  | empty
  | literal (spelling : Pattern.Spelling) (text : List Char)
  | one (set : Pattern.CharSet)
  /-- Characters of a set, any number of them or at least one, preferring the
  longest or the shortest run. -/
  | run (set : Pattern.CharSet) (nonempty greedy : Bool)
  | textStart
  | textEnd
  | seq (first second : Pattern)
  | alt (preferred other : Pattern)
  | group (body : Pattern)
  /-- Remembers the span of the body under a label. -/
  | capture (label : String) (body : Pattern)
  | times (body : Pattern) (quantifier : Pattern.Quantifier)
deriving DecidableEq, Repr

namespace Pattern

instance : Append Pattern := ⟨Pattern.seq⟩

instance : Inhabited Pattern := ⟨Pattern.empty⟩

/-- A text that the author of a pattern wrote out. -/
def text (s : String) : Pattern :=
  .literal .plain s.toList

/-- A name that comes from outside. -/
def name (s : String) : Pattern :=
  .literal .escaped s.toList

/-- An opening parenthesis and what comes after it. -/
def opened (body : Pattern) : Pattern :=
  text "(" ++ body

/-- White space, possibly none. -/
def blanks : Pattern :=
  .run .space false true

/-- White space, at least one character. -/
def gap : Pattern :=
  .run .space true true

/-- Decimal digits, at least one. -/
def digits : Pattern :=
  .run .digit true true

/-- An integer: decimal digits, possibly after a minus sign. -/
def integer : Pattern :=
  .times (text "-") .optional ++ digits

/-- A name of the language: an ASCII letter, then letters, digits and hyphens. -/
def identifier : Pattern :=
  .one .letter ++ .run .nameTail false true

/-- The alternatives in order of preference. -/
def anyOf : List Pattern → Pattern
  | [] => .empty
  | [pattern] => pattern
  | pattern :: patterns => .alt pattern (anyOf patterns)

/-- The least number of repetitions. -/
def Quantifier.least : Quantifier → Nat
  | .optional => 0
  | .star => 0
  | .plus => 1
  | .between least _ => least
  | .atLeast least => least

/-- The largest number of repetitions, if there is one. -/
def Quantifier.most : Quantifier → Option Nat
  | .optional => some 1
  | .star => none
  | .plus => none
  | .between _ most => some most
  | .atLeast _ => none

end Pattern

end TurtleAssist
