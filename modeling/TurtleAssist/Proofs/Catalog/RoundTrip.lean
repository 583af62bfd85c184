import TurtleAssist.Catalog.Writer
import TurtleAssist.Proofs.Catalog.Schema
import TurtleAssist.Proofs.Json.Writer

/-!
# Catalogs are read as they were written

The text of a catalog is read as the catalog (`Catalog.ofText?_text`). What is written is a
written form of a tree, so by the format of catalogs no reader is needed here: it is enough
that the tree stands for the catalog. A shortcut or an opposite that is absent is not written,
and its default is that it is absent. The other defaults play no part, since what they stand
for is always written.
-/

namespace TurtleAssist

open Json (Tree)

variable {α β : Type}

/-- Items that are decoded one by one are decoded together. -/
theorem mapM_map_eq_some {encode : α → β} {decode : β → Option α}
    (h : ∀ a, decode (encode a) = some a) (items : List α) :
    (items.map encode).mapM decode = some items := by
  induction items with
  | nil => rfl
  | cons item items ih =>
    rw [List.map_cons, List.mapM_cons, h item, ih]
    rfl

/-- A list stands for its items if each item stands for itself. -/
theorem list?_tree_array {encode : α → Json} {decode : Tree → Option α}
    (h : ∀ a, decode (encode a).tree = some a) (items : List α) :
    Tree.list? decode (Json.array (items.map encode)).tree = some items := by
  show (Json.trees (items.map encode)).mapM decode = some items
  rw [Json.trees_eq_map, List.map_map]
  exact mapM_map_eq_some h items

theorem list?_tree_strings (texts : List String) :
    Tree.list? Tree.text? (Json.strings texts).tree = some texts :=
  list?_tree_array (fun _ => rfl) texts

/-- **A command** is what its tree stands for. -/
theorem Command.ofTree?_toJson (command : Command) :
    ofTree? command.toJson.tree = some command := by
  obtain ⟨name, description, args, shortcut, opposite⟩ := command
  have hargs := congrArg (Option.bind · fun args =>
    some (⟨name, description, args, shortcut, opposite⟩ : Command)) (list?_tree_strings args)
  cases shortcut <;> cases opposite <;> exact hargs

/-- **A keyword** is what its tree stands for. -/
theorem Keyword.ofTree?_toJson (keyword : Keyword) :
    ofTree? keyword.toJson.tree = some keyword := by
  obtain ⟨name, description, body, wrapsInParens, shortcut⟩ := keyword
  cases shortcut <;> rfl

/-- **A variable** is what its tree stands for. -/
theorem Variable.ofTree?_toJson (known : Variable) : ofTree? known.toJson.tree = some known := by
  obtain ⟨name, description, shortcut⟩ := known
  cases shortcut <;> rfl

namespace Catalog

/-- **A catalog** is what its tree stands for. -/
theorem ofTree?_toJson (catalog : Catalog) : ofTree? catalog.toJson.tree = some catalog := by
  obtain ⟨commands, keywords, configVariables, builtins⟩ := catalog
  show ((Json.array (commands.map Command.toJson)).tree.list? Command.ofTree?).bind (fun commands =>
    ((Json.array (keywords.map Keyword.toJson)).tree.list? Keyword.ofTree?).bind fun keywords =>
    ((Json.array (configVariables.map Variable.toJson)).tree.list? Variable.ofTree?).bind
      fun configVariables =>
    ((Json.strings builtins).tree.list? Tree.text?).bind fun builtins =>
    some (⟨commands, keywords, configVariables, builtins⟩ : Catalog)) = _
  rw [list?_tree_array Command.ofTree?_toJson, list?_tree_array Keyword.ofTree?_toJson,
    list?_tree_array Variable.ofTree?_toJson, list?_tree_strings]
  rfl

/-- **The round trip.** The text of a catalog is read as the catalog. -/
theorem ofText?_text (catalog : Catalog) : ofText? catalog.text = .ok catalog := by
  have hread := ofText?_of_isWritten catalog.toJson.isWritten_render
  rw [ofTree?_toJson] at hread
  exact hread

end Catalog

end TurtleAssist
