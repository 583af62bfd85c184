import TurtleAssist.Pattern.Basic

/-!
# The written form of a pattern

A pattern is shown in the usual notation of regular expressions. Since the
tree has a node for every pair of parentheses, the written form is the
concatenation of the written forms of the parts.
-/

namespace TurtleAssist.Pattern

/-- The characters that are special outside brackets. -/
def specials : List Char :=
  ['\\', '.', '+', '*', '?', '(', ')', '|', '[', ']', '\x7b', '\x7d', '^', '$']

/-- The characters that are special somewhere in a pattern. -/
def allSpecials : List Char :=
  specials ++ ['#', '&', '-', '~']

/-- Writes a text with a backslash before each of the listed characters. -/
def withBackslashes (special : List Char) (text : List Char) : List Char :=
  text.flatMap fun c => if special.contains c then ['\\', c] else [c]

/-- A name with a backslash before every character that is special somewhere. -/
def escape (name : String) : String :=
  String.ofList (withBackslashes allSpecials name.toList)

/-- The written form of a literal text. -/
def Spelling.source : Spelling → List Char → List Char
  | .plain, text => withBackslashes specials text
  | .escaped, text => withBackslashes allSpecials text

/-- The decimal digits of a number. -/
def decimal (n : Nat) : List Char :=
  Nat.toDigits 10 n

/-- The written form of a quantifier. -/
def Quantifier.source : Quantifier → List Char
  | .optional => ['?']
  | .star => ['*']
  | .plus => ['+']
  | .between least most => '\x7b' :: decimal least ++ ',' :: decimal most ++ ['\x7d']
  | .atLeast least => '\x7b' :: decimal least ++ [',', '\x7d']

/-- The written form of a pattern. -/
def source : Pattern → List Char
  | .empty => []
  | .literal spelling text => spelling.source text
  | .one set => set.source
  | .run set nonempty greedy =>
    set.source ++ [if nonempty then '+' else '*'] ++ (if greedy then [] else ['?'])
  | .textStart => ['^']
  | .textEnd => ['$']
  | .seq first second => first.source ++ second.source
  | .alt preferred other => preferred.source ++ '|' :: other.source
  | .group body => ['(', '?', ':'] ++ body.source ++ [')']
  | .capture label body => ['(', '?', 'P', '<'] ++ label.toList ++ '>' :: body.source ++ [')']
  | .times body quantifier => body.source ++ quantifier.source

end TurtleAssist.Pattern
