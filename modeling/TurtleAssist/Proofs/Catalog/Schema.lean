import TurtleAssist.Catalog.File
import TurtleAssist.Proofs.Json.Members

/-!
# The format of catalogs

What a catalog is in a tree can be said without a reader. The records have members; some of
them must be there, others have a default, and `null` stands for the absence of a shortcut or
an opposite but for nothing else (`Catalog.ofTree?`). A catalog is read from a text if and
only if it is what the tree of the text stands for, however the tree is written
(`Catalog.ofText?_iff_ofTree?`).

The readers work on drafts. For each record it is enough to say where the draft keeps the
fields, and that finishing the draft comes to looking the fields up.
-/

namespace TurtleAssist

open Json (Tree Slot Reader IsWritten required? optional?)

/-! ## Records in trees -/

/-- The keys of a command. -/
def Command.keys : List String :=
  ["name", "description", "args", "shortcut", "opposite"]

/-- The command of some members. -/
def Command.ofMembers? (members : List (String × Tree)) : Option Command := do
  return {
    name := ← required? Tree.text? "name" members
    description := ← required? Tree.text? "description" members
    args := ← optional? (Tree.list? Tree.text?) [] "args" members
    shortcut := ← optional? Tree.textOrNull? none "shortcut" members
    opposite := ← optional? Tree.textOrNull? none "opposite" members }

/-- The command that a tree stands for. -/
def Command.ofTree? (tree : Tree) : Option Command :=
  (tree.members? Command.keys).bind Command.ofMembers?

/-- The keys of a keyword. -/
def Keyword.keys : List String :=
  ["name", "description", "body", "wraps_in_parens", "shortcut"]

/-- The keyword of some members. -/
def Keyword.ofMembers? (members : List (String × Tree)) : Option Keyword := do
  return {
    name := ← required? Tree.text? "name" members
    description := ← required? Tree.text? "description" members
    body := ← required? Tree.text? "body" members
    wrapsInParens := ← optional? Tree.boolean? true "wraps_in_parens" members
    shortcut := ← optional? Tree.textOrNull? none "shortcut" members }

/-- The keyword that a tree stands for. -/
def Keyword.ofTree? (tree : Tree) : Option Keyword :=
  (tree.members? Keyword.keys).bind Keyword.ofMembers?

/-- The keys of a variable. -/
def Variable.keys : List String :=
  ["name", "description", "shortcut"]

/-- The variable of some members. -/
def Variable.ofMembers? (members : List (String × Tree)) : Option Variable := do
  return {
    name := ← required? Tree.text? "name" members
    description := ← required? Tree.text? "description" members
    shortcut := ← optional? Tree.textOrNull? none "shortcut" members }

/-- The variable that a tree stands for. -/
def Variable.ofTree? (tree : Tree) : Option Variable :=
  (tree.members? Variable.keys).bind Variable.ofMembers?

/-- The keys of a catalog. -/
def Catalog.keys : List String :=
  ["commands", "keywords", "variables", "builtins"]

/-- The catalog of some members. -/
def Catalog.ofMembers? (members : List (String × Tree)) : Option Catalog := do
  return {
    commands := ← required? (Tree.list? Command.ofTree?) "commands" members
    keywords := ← required? (Tree.list? Keyword.ofTree?) "keywords" members
    configVariables := ← required? (Tree.list? Variable.ofTree?) "variables" members
    builtins := ← optional? (Tree.list? Tree.text?) builtinNames "builtins" members }

/-- **The catalog that a tree stands for.** -/
def Catalog.ofTree? (tree : Tree) : Option Catalog :=
  (tree.members? Catalog.keys).bind Catalog.ofMembers?

/-! ## Commands -/

namespace Command

/-- The fields of a command in its drafts. -/
def slots : List (Slot Draft) :=
  [ ⟨"name", Reader.text, Tree.text?, fun v d => { d with name := some v }, (·.name),
      Reader.reads_text, fun _ _ => rfl⟩,
    ⟨"description", Reader.text, Tree.text?, fun v d => { d with description := some v },
      (·.description), Reader.reads_text, fun _ _ => rfl⟩,
    ⟨"args", Reader.list Reader.text, Tree.list? Tree.text?,
      fun v d => { d with args := some v }, (·.args), Reader.reads_text.list, fun _ _ => rfl⟩,
    ⟨"shortcut", Reader.textOrNull, Tree.textOrNull?, fun v d => { d with shortcut := some v },
      (·.shortcut), Reader.reads_textOrNull, fun _ _ => rfl⟩,
    ⟨"opposite", Reader.textOrNull, Tree.textOrNull?, fun v d => { d with opposite := some v },
      (·.opposite), Reader.reads_textOrNull, fun _ _ => rfl⟩ ]

theorem pairwise_apart_slots : slots.Pairwise Slot.Apart := by
  simp only [slots, List.pairwise_cons, List.forall_mem_cons, List.not_mem_nil, false_implies,
    implies_true, List.Pairwise.nil, and_true]
  and_intros <;> exact ⟨by decide, fun _ _ => rfl, fun _ _ => rfl⟩

/-- **Commands are read** as they stand in trees. -/
theorem reads_record : (Reader.record schema).Reads ofTree? := by
  refine Reader.reads_record_of_members slots rfl pairwise_apart_slots ?_ ?_ ?_
  · simp only [slots, List.forall_mem_cons]
    exact ⟨rfl, rfl, rfl, rfl, rfl, fun _ h => nomatch h⟩
  · intro members draft hgiven
    simp only [slots, List.forall_mem_cons] at hgiven
    obtain ⟨hname, hdescription, hargs, hshortcut, hopposite, -⟩ := hgiven
    have hname : required? Tree.text? "name" members = draft.name := Slot.required?_eq hname
    have hdescription : required? Tree.text? "description" members = draft.description :=
      Slot.required?_eq hdescription
    have hargs : optional? (Tree.list? Tree.text?) [] "args" members = some (draft.args.getD []) :=
      Slot.optional?_eq hargs []
    have hshortcut : optional? Tree.textOrNull? none "shortcut" members
        = some (draft.shortcut.getD none) := Slot.optional?_eq hshortcut none
    have hopposite : optional? Tree.textOrNull? none "opposite" members
        = some (draft.opposite.getD none) := Slot.optional?_eq hopposite none
    unfold ofMembers?
    rw [hname, hdescription, hargs, hshortcut, hopposite]
    obtain ⟨name, description, -, -, -⟩ := draft
    cases name <;> cases description <;> rfl
  · intro members command h
    simp only [ofMembers?, Option.bind_eq_bind, Option.bind_eq_some_iff] at h
    obtain ⟨name, hname, description, hdescription, args, hargs, shortcut, hshortcut, opposite,
      hopposite, -⟩ := h
    simp only [slots, List.forall_mem_cons]
    exact ⟨Slot.given?_ne_none_of_required? hname, Slot.given?_ne_none_of_required? hdescription,
      Slot.given?_ne_none_of_optional? hargs, Slot.given?_ne_none_of_optional? hshortcut,
      Slot.given?_ne_none_of_optional? hopposite, fun _ h => nomatch h⟩

end Command

/-! ## Keywords -/

namespace Keyword

/-- The fields of a keyword in its drafts. -/
def slots : List (Slot Draft) :=
  [ ⟨"name", Reader.text, Tree.text?, fun v d => { d with name := some v }, (·.name),
      Reader.reads_text, fun _ _ => rfl⟩,
    ⟨"description", Reader.text, Tree.text?, fun v d => { d with description := some v },
      (·.description), Reader.reads_text, fun _ _ => rfl⟩,
    ⟨"body", Reader.text, Tree.text?, fun v d => { d with body := some v }, (·.body),
      Reader.reads_text, fun _ _ => rfl⟩,
    ⟨"wraps_in_parens", Reader.boolean, Tree.boolean?,
      fun v d => { d with wrapsInParens := some v }, (·.wrapsInParens), Reader.reads_boolean,
      fun _ _ => rfl⟩,
    ⟨"shortcut", Reader.textOrNull, Tree.textOrNull?, fun v d => { d with shortcut := some v },
      (·.shortcut), Reader.reads_textOrNull, fun _ _ => rfl⟩ ]

theorem pairwise_apart_slots : slots.Pairwise Slot.Apart := by
  simp only [slots, List.pairwise_cons, List.forall_mem_cons, List.not_mem_nil, false_implies,
    implies_true, List.Pairwise.nil, and_true]
  and_intros <;> exact ⟨by decide, fun _ _ => rfl, fun _ _ => rfl⟩

/-- **Keywords are read** as they stand in trees. -/
theorem reads_record : (Reader.record schema).Reads ofTree? := by
  refine Reader.reads_record_of_members slots rfl pairwise_apart_slots ?_ ?_ ?_
  · simp only [slots, List.forall_mem_cons]
    exact ⟨rfl, rfl, rfl, rfl, rfl, fun _ h => nomatch h⟩
  · intro members draft hgiven
    simp only [slots, List.forall_mem_cons] at hgiven
    obtain ⟨hname, hdescription, hbody, hwraps, hshortcut, -⟩ := hgiven
    have hname : required? Tree.text? "name" members = draft.name := Slot.required?_eq hname
    have hdescription : required? Tree.text? "description" members = draft.description :=
      Slot.required?_eq hdescription
    have hbody : required? Tree.text? "body" members = draft.body := Slot.required?_eq hbody
    have hwraps : optional? Tree.boolean? true "wraps_in_parens" members
        = some (draft.wrapsInParens.getD true) := Slot.optional?_eq hwraps true
    have hshortcut : optional? Tree.textOrNull? none "shortcut" members
        = some (draft.shortcut.getD none) := Slot.optional?_eq hshortcut none
    unfold ofMembers?
    rw [hname, hdescription, hbody, hwraps, hshortcut]
    obtain ⟨name, description, body, -, -⟩ := draft
    cases name <;> cases description <;> cases body <;> rfl
  · intro members keyword h
    simp only [ofMembers?, Option.bind_eq_bind, Option.bind_eq_some_iff] at h
    obtain ⟨name, hname, description, hdescription, body, hbody, wraps, hwraps, shortcut,
      hshortcut, -⟩ := h
    simp only [slots, List.forall_mem_cons]
    exact ⟨Slot.given?_ne_none_of_required? hname, Slot.given?_ne_none_of_required? hdescription,
      Slot.given?_ne_none_of_required? hbody, Slot.given?_ne_none_of_optional? hwraps,
      Slot.given?_ne_none_of_optional? hshortcut, fun _ h => nomatch h⟩

end Keyword

/-! ## Variables -/

namespace Variable

/-- The fields of a variable in its drafts. -/
def slots : List (Slot Draft) :=
  [ ⟨"name", Reader.text, Tree.text?, fun v d => { d with name := some v }, (·.name),
      Reader.reads_text, fun _ _ => rfl⟩,
    ⟨"description", Reader.text, Tree.text?, fun v d => { d with description := some v },
      (·.description), Reader.reads_text, fun _ _ => rfl⟩,
    ⟨"shortcut", Reader.textOrNull, Tree.textOrNull?, fun v d => { d with shortcut := some v },
      (·.shortcut), Reader.reads_textOrNull, fun _ _ => rfl⟩ ]

theorem pairwise_apart_slots : slots.Pairwise Slot.Apart := by
  simp only [slots, List.pairwise_cons, List.forall_mem_cons, List.not_mem_nil, false_implies,
    implies_true, List.Pairwise.nil, and_true]
  and_intros <;> exact ⟨by decide, fun _ _ => rfl, fun _ _ => rfl⟩

/-- **Variables are read** as they stand in trees. -/
theorem reads_record : (Reader.record schema).Reads ofTree? := by
  refine Reader.reads_record_of_members slots rfl pairwise_apart_slots ?_ ?_ ?_
  · simp only [slots, List.forall_mem_cons]
    exact ⟨rfl, rfl, rfl, fun _ h => nomatch h⟩
  · intro members draft hgiven
    simp only [slots, List.forall_mem_cons] at hgiven
    obtain ⟨hname, hdescription, hshortcut, -⟩ := hgiven
    have hname : required? Tree.text? "name" members = draft.name := Slot.required?_eq hname
    have hdescription : required? Tree.text? "description" members = draft.description :=
      Slot.required?_eq hdescription
    have hshortcut : optional? Tree.textOrNull? none "shortcut" members
        = some (draft.shortcut.getD none) := Slot.optional?_eq hshortcut none
    unfold ofMembers?
    rw [hname, hdescription, hshortcut]
    obtain ⟨name, description, -⟩ := draft
    cases name <;> cases description <;> rfl
  · intro members known h
    simp only [ofMembers?, Option.bind_eq_bind, Option.bind_eq_some_iff] at h
    obtain ⟨name, hname, description, hdescription, shortcut, hshortcut, -⟩ := h
    simp only [slots, List.forall_mem_cons]
    exact ⟨Slot.given?_ne_none_of_required? hname, Slot.given?_ne_none_of_required? hdescription,
      Slot.given?_ne_none_of_optional? hshortcut, fun _ h => nomatch h⟩

end Variable

/-! ## Catalogs -/

namespace Catalog

/-- The fields of a catalog in its drafts. -/
def slots : List (Slot Draft) :=
  [ ⟨"commands", Reader.list (Reader.record Command.schema), Tree.list? Command.ofTree?,
      fun v d => { d with commands := some v }, (·.commands), Command.reads_record.list,
      fun _ _ => rfl⟩,
    ⟨"keywords", Reader.list (Reader.record Keyword.schema), Tree.list? Keyword.ofTree?,
      fun v d => { d with keywords := some v }, (·.keywords), Keyword.reads_record.list,
      fun _ _ => rfl⟩,
    ⟨"variables", Reader.list (Reader.record Variable.schema), Tree.list? Variable.ofTree?,
      fun v d => { d with configVariables := some v }, (·.configVariables),
      Variable.reads_record.list, fun _ _ => rfl⟩,
    ⟨"builtins", Reader.list Reader.text, Tree.list? Tree.text?,
      fun v d => { d with builtins := some v }, (·.builtins), Reader.reads_text.list,
      fun _ _ => rfl⟩ ]

theorem pairwise_apart_slots : slots.Pairwise Slot.Apart := by
  simp only [slots, List.pairwise_cons, List.forall_mem_cons, List.not_mem_nil, false_implies,
    implies_true, List.Pairwise.nil, and_true]
  and_intros <;> exact ⟨by decide, fun _ _ => rfl, fun _ _ => rfl⟩

/-- **Catalogs are read** as they stand in trees. -/
theorem reads_record : (Reader.record schema).Reads ofTree? := by
  refine Reader.reads_record_of_members slots rfl pairwise_apart_slots ?_ ?_ ?_
  · simp only [slots, List.forall_mem_cons]
    exact ⟨rfl, rfl, rfl, rfl, fun _ h => nomatch h⟩
  · intro members draft hgiven
    simp only [slots, List.forall_mem_cons] at hgiven
    obtain ⟨hcommands, hkeywords, hvariables, hbuiltins, -⟩ := hgiven
    have hcommands : required? (Tree.list? Command.ofTree?) "commands" members = draft.commands :=
      Slot.required?_eq hcommands
    have hkeywords : required? (Tree.list? Keyword.ofTree?) "keywords" members = draft.keywords :=
      Slot.required?_eq hkeywords
    have hvariables : required? (Tree.list? Variable.ofTree?) "variables" members
        = draft.configVariables := Slot.required?_eq hvariables
    have hbuiltins : optional? (Tree.list? Tree.text?) builtinNames "builtins" members
        = some (draft.builtins.getD builtinNames) := Slot.optional?_eq hbuiltins builtinNames
    unfold ofMembers?
    rw [hcommands, hkeywords, hvariables, hbuiltins]
    obtain ⟨commands, keywords, configVariables, -⟩ := draft
    cases commands <;> cases keywords <;> cases configVariables <;> rfl
  · intro members catalog h
    simp only [ofMembers?, Option.bind_eq_bind, Option.bind_eq_some_iff] at h
    obtain ⟨commands, hcommands, keywords, hkeywords, configVariables, hvariables, builtins,
      hbuiltins, -⟩ := h
    simp only [slots, List.forall_mem_cons]
    exact ⟨Slot.given?_ne_none_of_required? hcommands,
      Slot.given?_ne_none_of_required? hkeywords, Slot.given?_ne_none_of_required? hvariables,
      Slot.given?_ne_none_of_optional? hbuiltins, fun _ h => nomatch h⟩

/-- The text of a tree is read, or refused, as a whole. -/
theorem ofText?_of_isWritten {tree : Tree} {text : List Char} (h : IsWritten tree text) :
    match ofTree? tree with
    | some catalog => ofText? (String.ofList text) = .ok catalog
    | none => ∃ failure, ofText? (String.ofList text) = .error (.malformed failure) := by
  have hrun := reads_record.run h
  unfold ofText? ofText
  rw [String.toList_ofList]
  cases htree : ofTree? tree with
  | some catalog =>
    rw [htree] at hrun
    exact congrArg (Except.mapError CatalogError.malformed) hrun
  | none =>
    rw [htree] at hrun
    obtain ⟨failure, hfailure⟩ := hrun
    exact ⟨failure, congrArg (Except.mapError CatalogError.malformed) hfailure⟩

/-- **The format of catalogs.** However a tree is written, the text is read as the catalog
that the tree stands for, and it is malformed if the tree does not stand for a catalog. -/
theorem ofText?_iff_ofTree? {tree : Tree} {text : List Char} (h : IsWritten tree text) :
    (∀ catalog, ofText? (String.ofList text) = .ok catalog ↔ ofTree? tree = some catalog)
      ∧ (ofTree? tree = none →
          ∃ failure, ofText? (String.ofList text) = .error (.malformed failure)) := by
  have hread := ofText?_of_isWritten h
  cases htree : ofTree? tree with
  | some found =>
    rw [htree] at hread
    refine ⟨fun catalog => ?_, fun hnone => nomatch hnone⟩
    rw [hread, Except.ok.injEq, Option.some.injEq]
  | none =>
    rw [htree] at hread
    obtain ⟨failure, hfailure⟩ := hread
    refine ⟨fun catalog => ?_, fun _ => ⟨failure, hfailure⟩⟩
    rw [hfailure]
    exact ⟨fun h => (nomatch h), fun h => (nomatch h)⟩

/-- A catalog that is written as an array, without its reserved names, with white space and
an escape. -/
theorem ofText?_iff_ofTree?_array :
    IsWritten (.array [.array [], .array [], .array [.array [.string "n", .string "d"]]])
        [' ', '[', '[', ']', ',', '[', ']', ',', '\n', '[', '[', '"', '\\', 'u', '0', '0', '6',
          'E', '"', ',', '"', 'd', '"', ']', ' ', ']', ']']
      ∧ ofText? (String.ofList
          [' ', '[', '[', ']', ',', '[', ']', ',', '\n', '[', '[', '"', '\\', 'u', '0', '0', '6',
            'E', '"', ',', '"', 'd', '"', ']', ' ', ']', ']'])
          = .ok { commands := [], keywords := [], configVariables := [⟨"n", "d", none⟩] } := by
  have hwritten : IsWritten
      (.array [.array [], .array [], .array [.array [.string "n", .string "d"]]])
      [' ', '[', '[', ']', ',', '[', ']', ',', '\n', '[', '[', '"', '\\', 'u', '0', '0', '6',
        'E', '"', ',', '"', 'd', '"', ']', ' ', ']', ']'] := by
    have hname : ∀ t, Json.WritesChars "n".toList
        ('\\' :: 'u' :: '0' :: '0' :: '6' :: 'E' :: '"' :: t) t :=
      fun t => .char (.numbered rfl _) (.close t)
    have hdescription : ∀ t, Json.WritesChars "d".toList ('d' :: '"' :: t) t :=
      fun t => .char (.plain (by decide) (by decide) (by decide) _) (.close t)
    have hknown : ∀ t, Json.Writes (.array [.string "n", .string "d"])
        ('[' :: '"' :: '\\' :: 'u' :: '0' :: '0' :: '6' :: 'E' :: '"' :: ',' :: '"' :: 'd' :: '"'
          :: ']' :: t) t :=
      fun t => .array (.item (.first (.none _)) (.string (hname _))
        (.item (.comma (.none _) (.none _)) (.string (hdescription _)) (.close (.none _))))
    refine ⟨_, _, .cons rfl (.none _), .array ?_, .none _⟩
    refine .item (.first (.none _)) (.array (.close (.none _))) ?_
    refine .item (.comma (.none _) (.none _)) (.array (.close (.none _))) ?_
    refine .item (.comma (.none _) (.cons rfl (.none _))) (.array ?_) (.close (.none _))
    exact .item (.first (.none _)) (hknown _) (.close (.cons rfl (.none _)))
  exact ⟨hwritten, ((ofText?_iff_ofTree? hwritten).1 _).mpr rfl⟩

end Catalog

end TurtleAssist
