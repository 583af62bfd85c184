/-!
# The lines of a text

A line ends with a line feed, and a carriage return just before that line feed
belongs to the ending and not to the line. What follows the last line feed is
a line of its own unless it is empty; it keeps a carriage return at its end,
since no line feed follows. No other character ends a line, neither a lone
carriage return nor the separators of the Unicode standard.

The text is read from its end, so that each character is added in front of
the line it belongs to: what has been read so far is the list of lines, and
whether it begins with a line feed.
-/

namespace TurtleAssist.Text

/-- The characters of a line, without its ending. -/
abbrev Line := List Char

/-- The lines of a text read so far, from its end. -/
structure Tail where
  /-- The text read so far begins with a line feed. -/
  startsWithFeed : Bool
  /-- Its lines. -/
  lines : List Line

/-- Adds a character in front of the first line, or a new line. -/
def Tail.add (c : Char) (tail : Tail) : Tail :=
  if c = '\n' then ⟨true, [] :: tail.lines⟩
  else if c = '\r' ∧ tail.startsWithFeed then ⟨false, tail.lines⟩
  else
    match tail.lines with
    | [] => ⟨false, [[c]]⟩
    | line :: lines => ⟨false, (c :: line) :: lines⟩

/-- The lines of a text. -/
def lines (text : List Char) : List Line :=
  (text.foldr Tail.add ⟨false, []⟩).lines

@[simp] theorem lines_nil : lines [] = [] := rfl

/-- A line feed in front is an empty line in front. -/
theorem lines_feed (text : List Char) : lines ('\n' :: text) = [] :: lines text := rfl

/-- So is a carriage return with a line feed. -/
theorem lines_return_feed (text : List Char) :
    lines ('\r' :: '\n' :: text) = [] :: lines text := rfl

/-- A single line without line feeds is a line, its carriage returns included. -/
theorem lines_eq_singleton {line : Line} (hne : line ≠ []) (hfeed : '\n' ∉ line) :
    lines line = [line] := by
  have h : ∀ rest : Line, '\n' ∉ rest →
      rest.foldr Tail.add ⟨false, []⟩ = ⟨false, if rest = [] then [] else [rest]⟩ := by
    intro rest
    induction rest with
    | nil => intro _; rfl
    | cons c rest ih =>
      intro hmem
      simp only [List.mem_cons, not_or] at hmem
      rw [List.foldr_cons, ih hmem.2]
      by_cases hrest : rest = []
      · simp [Tail.add, hrest, Ne.symm hmem.1]
      · simp [Tail.add, hrest, Ne.symm hmem.1]
  simp [lines, h line hfeed, hne]

end TurtleAssist.Text
