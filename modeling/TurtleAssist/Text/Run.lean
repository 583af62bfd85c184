import TurtleAssist.Unicode.WhiteSpace

/-!
# Runs of characters

A *run* of a class of characters is a stretch of a text that lies in the class
and cannot be made longer on either side. The tokens of a parameter list are
its runs of characters that are not white space.

A text can also be split at the runs of a class. Between two of them stands a
piece, and one more at either end of the text, possibly without any character.
The words of a document are pieces of it, split at what does not belong to
words.

Like the lines, the runs and the pieces are read from the end of the text.
-/

namespace TurtleAssist.Text

open Unicode (isWhiteSpace)

/-- Adds a character in front of the runs found so far: to the first of them if
that run is still open, that is if it begins where the character ends. -/
def addToRun (inClass : Char → Bool) (c : Char) (state : Bool × List (List Char)) :
    Bool × List (List Char) :=
  if inClass c then
    match state with
    | (true, run :: runs) => (true, (c :: run) :: runs)
    | (_, runs) => (true, [c] :: runs)
  else (false, state.2)

/-- The longest stretches of characters of a class, from left to right. -/
def runs (inClass : Char → Bool) (text : List Char) : List (List Char) :=
  (text.foldr (addToRun inClass) (false, [])).2

@[simp] theorem runs_nil (inClass : Char → Bool) : runs inClass [] = [] := rfl

/-- A character outside the class only separates. -/
theorem runs_cons_of_not {inClass : Char → Bool} {c : Char} (hc : inClass c = false)
    (text : List Char) : runs inClass (c :: text) = runs inClass text := by
  simp [runs, addToRun, hc]

/-- Adds a character in front of the pieces found so far. A separator ends a new piece,
unless there is another separator behind it. -/
def addToPieces (separates : Char → Bool) (c : Char) (state : Bool × List (List Char)) :
    Bool × List (List Char) :=
  if separates c then (true, if state.1 then state.2 else [] :: state.2)
  else (false, state.2.modifyHead (c :: ·))

theorem addToPieces_of_separates {separates : Char → Bool} {c : Char} (hc : separates c = true)
    (state : Bool × List (List Char)) :
    addToPieces separates c state = (true, if state.1 then state.2 else [] :: state.2) :=
  if_pos hc

/-- The pieces of a text before, between and after its runs of separators, from left to
right. -/
def pieces (separates : Char → Bool) (text : List Char) : List (List Char) :=
  (text.foldr (addToPieces separates) (false, [[]])).2

/-- The tokens of a text: its runs of characters that are not white space. -/
def tokens (text : List Char) : List (List Char) :=
  runs (fun c => !isWhiteSpace c) text

/-- The text without the white space at both its ends. -/
def trim (text : List Char) : List Char :=
  ((text.dropWhile isWhiteSpace).reverse.dropWhile isWhiteSpace).reverse

end TurtleAssist.Text
