import TurtleAssist.Unicode.Printable

/-!
# Quoted text

A message shows a text of the user between double quotes. The quotes, the
backslash and the four usual controls get a backslash; a character that would
not be seen by itself is written by its code point in hexadecimal, between
braces; every other character stands for itself.
-/

namespace TurtleAssist.Text

/-- The digits of a number in base sixteen, in lower case. -/
def hexDigits (n : Nat) : List Char :=
  Nat.toDigits 16 n

/-- A character as it stands between the quotes. -/
def quotedChar (c : Char) : List Char :=
  match c with
  | '\x00' => ['\\', '0']
  | '\t' => ['\\', 't']
  | '\r' => ['\\', 'r']
  | '\n' => ['\\', 'n']
  | '\\' => ['\\', '\\']
  | '"' => ['\\', '"']
  | c =>
    if Unicode.isShownAsItself c then [c]
    else ['\\', 'u', '\x7b'] ++ hexDigits c.toNat ++ ['\x7d']

/-- The text between double quotes. -/
def quoted (text : List Char) : List Char :=
  '"' :: text.flatMap quotedChar ++ ['"']

end TurtleAssist.Text
