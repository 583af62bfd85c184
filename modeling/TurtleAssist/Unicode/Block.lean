/-!
# Blocks of code points

A character class of the Unicode standard is a table of blocks, each the code
points from its first to its last. A character is in the class when one of the
blocks holds it. The tables are written in increasing order and
without overlap.
-/

namespace TurtleAssist.Unicode

/-- The code points from the first to the last, both included. -/
abbrev Block := Nat × Nat

/-- Whether a block of an ordered table holds the character. -/
def contains (table : List Block) (c : Char) : Bool :=
  table.any fun block => block.1 ≤ c.toNat && c.toNat ≤ block.2

/-- The number of code points that the blocks hold together. -/
def size (table : List Block) : Nat :=
  table.foldr (fun block n => block.2 + 1 - block.1 + n) 0

/-- Every block is inhabited, and ends before the next one begins. -/
def Ordered : List Block → Prop
  | [] => True
  | [block] => block.1 ≤ block.2
  | block :: next :: table => block.1 ≤ block.2 ∧ block.2 < next.1 ∧ Ordered (next :: table)

instance decidableOrdered : (table : List Block) → Decidable (Ordered table)
  | [] => isTrue trivial
  | [_] => inferInstanceAs (Decidable (_ ≤ _))
  | _ :: next :: table =>
    have := decidableOrdered (next :: table)
    inferInstanceAs (Decidable (_ ∧ _ ∧ _))

theorem contains_iff {table : List Block} {c : Char} :
    contains table c = true ↔ ∃ block ∈ table, block.1 ≤ c.toNat ∧ c.toNat ≤ block.2 := by
  simp [contains]

end TurtleAssist.Unicode
