/-!
# Snippets

The text that a completion inserts may hold placeholders, which an editor
visits in the order of their numbers: a dollar sign, then the number, a colon
and the text shown at first, between braces.
-/

namespace TurtleAssist.Snippet

/-- The placeholder of a number, with the text shown at first. -/
def placeholder (number : Nat) (shown : String) : String :=
  "$\x7b" ++ toString number ++ ":" ++ shown ++ "\x7d"

/-- A call with a placeholder for each argument, numbered from one. -/
def call (name : String) (args : List String) : String :=
  "(" ++ name
    ++ String.join (args.zipIdx.map fun (arg, index) => " " ++ placeholder (index + 1) arg)
    ++ ")"

/-- Whether the text asks to be read as a snippet. -/
def hasPlaceholder (text : String) : Bool :=
  text.toList.contains '$'

end TurtleAssist.Snippet
