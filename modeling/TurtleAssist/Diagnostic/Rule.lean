import TurtleAssist.Catalog.Basic
import TurtleAssist.Diagnostic.Basic
import TurtleAssist.Pattern.Compiler
import TurtleAssist.Pattern.Match

/-!
# The rules of a catalog

A rule is a pattern with the message for the lines in which it is found. The
first two tiers need no catalog: hints on style, and checks of the structure of
forms and of colors. The next two are made from the commands. Each command has
a rule for calls with integers in the wrong number; a command that takes
arguments has one more for calls with an identifier among the arguments.
-/

namespace TurtleAssist

/-- A pattern with what is reported where it is found. -/
structure Rule where
  pattern : Pattern
  message : String
  severity : Severity
  tier : Tier
deriving DecidableEq, Repr, Inhabited

namespace Rule

open Pattern

/-- The hints on style. -/
def style : List Rule :=
  [ { pattern := opened (blanks ++ text "define" ++ gap ++ text "turtle-"
        ++ .group (.alt (text "configuration") (text "theme")) ++ gap ++ text "(")
      message := "It's recommended to escape the whole command list with a single quote."
      severity := .information
      tier := .style },
    { pattern := opened (gap ++ .one .nonSpace)
      message := "It's recommended to remove spaces right after the opening parenthesis."
      severity := .information
      tier := .style },
    { pattern := .one .nonSpace ++ gap ++ text ")"
      message := "It's recommended to remove spaces right before the closing parenthesis."
      severity := .information
      tier := .style } ]

/-- Every character but the parentheses and the ASCII letters. -/
def nonLetter : CharSet :=
  .noneOf [.single '(', .single ')', .range 'a' 'z', .range 'A' 'Z']

/-- The checks of the structure of forms. -/
def structural : List Rule :=
  [ { pattern := opened (blanks ++ digits ++ .times (.group (gap ++ digits)) .optional
        ++ blanks ++ text ")")
      message := "Red, green, blue color components were expected, less were found."
      severity := .warning
      tier := .structural },
    { pattern := opened (blanks ++ digits ++ .times (.group (gap ++ digits)) (.atLeast 3)
        ++ blanks ++ text ")")
      message := "Just red, green, blue color components were expected, more were found."
      severity := .warning
      tier := .structural },
    { pattern := opened (.run nonLetter false true ++ text "-" ++ digits
        ++ .run nonLetter false true ++ text ")")
      message := "Just positive color components expected, negative were found."
      severity := .warning
      tier := .structural },
    { pattern := opened (blanks ++ text ")")
      message := "Valid command expected."
      severity := .warning
      tier := .structural },
    { pattern := text "list" ++ blanks ++ text "<" ++ blanks
        ++ .run (.noneOf [.single ' ', .single '(', .single ')']) false true ++ blanks ++ text ">"
      message := "T[] syntax is expected instead of list<T>."
      severity := .warning
      tier := .structural } ]

/-- An integer argument, with the white space before it. -/
def integerArgument : Pattern :=
  gap ++ integer

/-- An identifier argument, with the white space before it. -/
def identifierArgument : Pattern :=
  gap ++ identifier

/-- Integer arguments, fewer or more than the arity. -/
def wrongCount : Nat → Pattern
  | 0 => .times (.group integerArgument) .plus
  | k + 1 =>
    .alt (.times (.group integerArgument) (.between 0 k))
      (.times (.group integerArgument) (.atLeast (k + 2)))

/-- A call of a command with the arguments. -/
def callOf (command : Command) (arguments : Pattern) : Pattern :=
  opened (blanks ++ name command.name ++ arguments ++ blanks ++ text ")")

/-- A call with integers in a number other than the arity. -/
def argumentCount (command : Command) : Rule where
  pattern := callOf command (.group (wrongCount command.arity))
  message := "`" ++ command.name ++ "` expected exactly " ++ toString command.arity ++ " arguments."
  severity := .error
  tier := .argumentCount

/-- A call with at least one identifier among its arguments. -/
def argumentType (command : Command) : Rule where
  pattern := callOf command
    (.times (.group integerArgument) .star ++ identifierArgument
      ++ .times (.group (.alt integerArgument identifierArgument)) .star)
  message := "`" ++ command.name ++ "` expected integer arguments."
  severity := .error
  tier := .argumentType

/-- The rules of a catalog in the order in which they are tried. -/
def ofCatalog (catalog : Catalog) : List Rule :=
  style ++ structural ++ catalog.commands.map argumentCount
    ++ (catalog.commands.filter fun command => decide (0 < command.arity)).map argumentType

/-- The rule with its pattern made ready, unless the pattern is refused. -/
def compiled (compiler : Compiler) (rule : Rule) : Except PatternError Rule :=
  (compiler.compile rule.pattern).map fun pattern => { rule with pattern }

end Rule

end TurtleAssist
