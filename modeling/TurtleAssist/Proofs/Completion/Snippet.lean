import Mathlib.Data.List.Basic
import TurtleAssist.Completion.Snippet
import TurtleAssist.Proofs.Diagnostic.Call

/-!
# Snippets that are filled in

A snippet is made of pieces of text and of placeholders. It is written with the placeholders
as an editor wants them, and it is filled in by putting a value in the place of each
(`Snippet.write`, `Snippet.fill`). The pieces matter because the text of an argument may hold
anything, so where a placeholder ends cannot be told from what is written.

What is inserted for a call is written from the pieces of the call (`write_callPieces`), and
filled in with integers it is the line of a call with these as its arguments
(`toList_fill_callPieces`).
-/

namespace TurtleAssist.Snippet

/-- A piece of a snippet: a text that is inserted as it is, or a placeholder. -/
inductive Piece where
  | text (literal : String)
  | placeholder (number : Nat) (shown : String)
deriving DecidableEq, Repr

/-- The piece as it is inserted. -/
def Piece.written : Piece → String
  | .text literal => literal
  | .placeholder number shown => Snippet.placeholder number shown

/-- The piece with the value of its number in the place of a placeholder. -/
def Piece.filled (values : Nat → String) : Piece → String
  | .text literal => literal
  | .placeholder number _ => values number

/-- The text that is inserted. -/
def write (pieces : List Piece) : String :=
  String.join (pieces.map Piece.written)

/-- **The text when the placeholders are filled in**, each with the value of its number. -/
def fill (values : Nat → String) (pieces : List Piece) : String :=
  String.join (pieces.map (Piece.filled values))

/-- **The pieces of a call**: a placeholder for each argument, numbered from one. -/
def callPieces (name : String) (args : List String) : List Piece :=
  .text ("(" ++ name) ::
    (args.zipIdx.flatMap (fun (arg, index) => [.text " ", .placeholder (index + 1) arg])
      ++ [.text ")"])

variable {name : String} {args : List String}

/-- Texts that are joined in pairs. -/
theorem join_flatMap_pair {α : Type} (f g : α → String) (items : List α) :
    String.join (items.flatMap fun item => [f item, g item])
      = String.join (items.map fun item => f item ++ g item) := by
  induction items with
  | nil => rfl
  | cons item items ih =>
    rw [List.flatMap_cons, String.join_append, ih, List.map_cons, String.join_cons,
      String.join_cons, String.join_cons, String.join_nil, String.append_empty]

/-- The pieces of a call, each made a text, are joined argument by argument. -/
theorem join_map_callPieces (f : Piece → String) :
    String.join ((callPieces name args).map f)
      = f (.text ("(" ++ name))
        ++ (String.join (args.zipIdx.map fun (arg, index) =>
            f (.text " ") ++ f (.placeholder (index + 1) arg)) ++ f (.text ")")) := by
  unfold callPieces
  rw [List.map_cons, List.map_append, List.map_flatMap, String.join_cons, String.join_append]
  simp only [List.map_cons, List.map_nil, join_flatMap_pair, String.join_cons, String.join_nil,
    String.append_empty]

/-- **A call is inserted as its pieces are written.** -/
theorem write_callPieces (name : String) (args : List String) :
    write (callPieces name args) = call name args := by
  unfold write call
  rw [join_map_callPieces, ← String.append_assoc]
  rfl

/-- Integers for the arguments of a call, each after a single space. -/
def integers (values : Nat → String) (h : ∀ number, IsInteger (values number).toList)
    (args : List String) : List Argument :=
  args.zipIdx.map fun numbered =>
    .spaced (values (numbered.2 + 1)).toList (Or.inl (h (numbered.2 + 1)))

variable {values : Nat → String} (h : ∀ number, IsInteger (values number).toList)

theorem length_integers : (integers values h args).length = args.length := by
  rw [integers, List.length_map, List.length_zipIdx]

theorem isInteger_of_mem_integers :
    ∀ argument ∈ integers values h args, IsInteger argument.token := by
  unfold integers
  rw [List.forall_mem_map]
  exact fun numbered _ => h (numbered.2 + 1)

theorem gap_of_mem_integers :
    ∀ argument ∈ integers values h args, '\n' ∉ argument.gap := by
  unfold integers
  rw [List.forall_mem_map]
  exact fun _ _ => (by decide : '\n' ∉ [' '])

/-- **A call that is filled in with integers** is the line of a call with these integers. -/
theorem toList_fill_callPieces (name : String) (args : List String) :
    (fill values (callPieces name args)).toList = callLine name (integers values h args) := by
  unfold fill
  rw [join_map_callPieces]
  show ("(" ++ name ++ (String.join _ ++ ")")).toList
    = '(' :: (name.toList ++ (integers values h args).flatMap Argument.text ++ [')'])
  have htext : ∀ numbered : String × Nat, (" " ++ values (numbered.2 + 1)).toList
      = (Argument.spaced (values (numbered.2 + 1)).toList (Or.inl (h (numbered.2 + 1)))).text :=
    fun _ => String.toList_append
  have hjoin : (String.join (args.zipIdx.map fun numbered =>
      " " ++ values (numbered.2 + 1))).toList
      = (integers values h args).flatMap Argument.text := by
    rw [String.toList_join, integers, List.flatMap_map, List.flatMap_map]
    simp only [htext]
  rw [String.toList_append, String.toList_append, String.toList_append, ← hjoin,
    List.append_assoc, List.append_assoc]
  rfl

end TurtleAssist.Snippet
