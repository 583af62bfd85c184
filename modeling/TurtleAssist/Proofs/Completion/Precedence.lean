import TurtleAssist.Completion.Basic
import TurtleAssist.Proofs.Completion.FreeWord
import TurtleAssist.Proofs.Distinct
import TurtleAssist.Proofs.Identifier.FirstAppearance

/-!
# The precedence of completions

Labels collide in many ways: a shortcut may be the name of a command, a catalog may repeat a
name, and a document may define or write what is a shortcut or an angle. `complete` settles
every such collision in favour of the entry that stands first in the seven tiers, and this
module says so without the pass that does it (`complete_precedence`).

The tiers fall in two parts. The *fixed* ones depend on the catalog only, and their labels are
the names and shortcuts of the catalog and the angles, which are said to be *reserved*
(`mem_map_label_fixedTiers_iff`). The *found* ones depend on the document, and there are none
for an empty document. Hence what is offered for an empty document stands in front of what is
offered for any other, and nothing that was found is offered under a reserved label.
-/

namespace TurtleAssist

/-- The shortcuts of commands, variables and keywords. -/
def Catalog.shortcuts (catalog : Catalog) : List String :=
  catalog.commands.filterMap (·.shortcut) ++ catalog.configVariables.filterMap (·.shortcut)
    ++ catalog.keywords.filterMap (·.shortcut)

namespace Completion

/-- A label that no entry found in a document may have: the name of a command, a keyword or a
variable, a shortcut, or an angle. -/
def IsReserved (catalog : Catalog) (label : String) : Prop :=
  label ∈ catalog.ownNames ∨ label ∈ catalog.shortcuts
    ∨ ∃ angle ∈ angles, label = toString angle ∨ label = toString (-angle)

instance (catalog : Catalog) (label : String) : Decidable (IsReserved catalog label) :=
  inferInstanceAs (Decidable (_ ∨ _ ∨ ∃ angle ∈ angles, _))

/-- The entry stands in the list and none before it has its label. -/
def IsFirstOfLabel (entries : List Entry) (entry : Entry) : Prop :=
  ∃ before after, entries = before ++ entry :: after
    ∧ ∀ other ∈ before, other.label ≠ entry.label

/-- The tiers that the catalog determines. -/
def fixedTiers (catalog : Catalog) : List Entry :=
  commands catalog ++ commandShortcuts catalog ++ configVariables catalog ++ keywords catalog
    ++ constants

/-- The tiers that are found in a document. -/
def foundTiers (catalog : Catalog) (text : String) : List Entry :=
  identifiers (classify catalog text) ++ freeWords (words catalog text (classify catalog text))

theorem tiers_eq (catalog : Catalog) (text : String) :
    tiers catalog text = fixedTiers catalog ++ foundTiers catalog text := by
  unfold tiers fixedTiers foundTiers
  simp only [List.append_assoc]

/-- Nothing is found in an empty document. -/
theorem foundTiers_empty (catalog : Catalog) : foundTiers catalog "" = [] := rfl

/-! ## Labels of the fixed tiers -/

section Labels

variable (catalog : Catalog)

theorem map_label_commands :
    (commands catalog).map Entry.label = catalog.commands.map (·.name) := by
  unfold commands
  rw [List.map_map]
  rfl

theorem map_label_commandShortcuts :
    (commandShortcuts catalog).map Entry.label = catalog.commands.filterMap (·.shortcut) := by
  simp [commandShortcuts, Entry.ofCommand, List.map_filterMap, Function.comp_def]

theorem map_label_configVariables :
    (configVariables catalog).map Entry.label
      = catalog.configVariables.map (·.name) ++ catalog.configVariables.filterMap (·.shortcut) := by
  simp [configVariables, Entry.ofVariable, List.map_filterMap, Function.comp_def]

theorem map_label_keywords :
    (keywords catalog).map Entry.label
      = catalog.keywords.map (·.name) ++ catalog.keywords.filterMap (·.shortcut) := by
  simp [keywords, Entry.ofKeyword, List.map_filterMap, Function.comp_def]

theorem mem_map_label_constants_iff {label : String} :
    label ∈ constants.map Entry.label
      ↔ ∃ angle ∈ angles, label = toString angle ∨ label = toString (-angle) := by
  simp only [constants, List.map_append, List.map_map, List.mem_append, List.mem_map,
    Function.comp_apply, Entry.ofAngle, eq_comm (a := label), and_or_left, exists_or]

variable {catalog}

/-- **The fixed tiers have the reserved labels.** -/
theorem mem_map_label_fixedTiers_iff {label : String} :
    label ∈ (fixedTiers catalog).map Entry.label ↔ IsReserved catalog label := by
  unfold fixedTiers IsReserved Catalog.ownNames Catalog.shortcuts
  simp only [List.map_append, List.mem_append, map_label_commands, map_label_commandShortcuts,
    map_label_configVariables, map_label_keywords, mem_map_label_constants_iff]
  grind

end Labels

/-! ## Telling the two parts apart

An entry says in its detail what it is, and the first character is enough to see whether it was
found in a document. -/

section Detail

/-- The detail begins as that of an identifier or a word does. -/
def showsFound (entry : Entry) : Bool :=
  [some 'u', some 'W'].contains entry.detail.toList.head?

@[simp] theorem showsFound_ofCommand (command : Command) (label : String) (kind : EntryKind) :
    showsFound (.ofCommand command label kind) = false := by
  simp [showsFound, Entry.ofCommand]

@[simp] theorem showsFound_ofVariable (known : Variable) (label : String) (kind : EntryKind) :
    showsFound (.ofVariable known label kind) = false := by
  simp [showsFound, Entry.ofVariable]

@[simp] theorem showsFound_ofKeyword (keyword : Keyword) (label : String) (kind : EntryKind) :
    showsFound (.ofKeyword keyword label kind) = false := by
  simp [showsFound, Entry.ofKeyword]

@[simp] theorem showsFound_ofAngle (angle : Int) : showsFound (.ofAngle angle) = false := by
  simp [showsFound, Entry.ofAngle]

@[simp] theorem showsFound_ofIdentifier (identifier : Identifier) :
    showsFound (.ofIdentifier identifier) = true := by
  simp [showsFound, Entry.ofIdentifier]

@[simp] theorem showsFound_ofWord (word : String) : showsFound (.ofWord word) = true := by
  simp [showsFound, Entry.ofWord]

theorem showsFound_of_mem_fixedTiers (catalog : Catalog) :
    ∀ entry ∈ fixedTiers catalog, showsFound entry = false := by
  unfold fixedTiers commands commandShortcuts configVariables keywords constants
  simp only [List.forall_mem_append, List.forall_mem_map, List.forall_mem_filterMap]
  simp

theorem showsFound_of_mem_foundTiers (catalog : Catalog) (text : String) :
    ∀ entry ∈ foundTiers catalog text, showsFound entry = true := by
  unfold foundTiers identifiers freeWords
  simp only [List.forall_mem_append, List.forall_mem_map]
  simp

end Detail

end Completion

open Completion

/-- What is offered for a document: what is offered without one, and then the first entries
of those labels that are not reserved. -/
theorem complete_eq (catalog : Catalog) (text : String) :
    complete catalog text
      = complete catalog ""
        ++ (distinctBy Entry.label (foundTiers catalog text)).filter fun entry =>
          !((fixedTiers catalog).map Entry.label).contains entry.label := by
  have hempty : complete catalog "" = distinctBy Entry.label (fixedTiers catalog) := by
    unfold complete
    rw [tiers_eq, foundTiers_empty, List.append_nil]
  rw [hempty]
  unfold complete
  rw [tiers_eq, distinctBy_append]

/-- What is found in a document has each label once: no name is reported twice, no word is
extracted twice, and no word is a name. -/
theorem nodup_map_label_foundTiers (catalog : Catalog) (text : String) :
    ((foundTiers catalog text).map Entry.label).Nodup := by
  have hlabels : (foundTiers catalog text).map Entry.label
      = (classify catalog text).map Identifier.name
        ++ words catalog text (classify catalog text) := by
    unfold foundTiers identifiers freeWords
    rw [List.map_append, List.map_map, List.map_map]
    exact congrArg (_ ++ ·) (List.map_id _)
  rw [hlabels]
  refine List.Nodup.append (nodup_map_name_classify catalog text) (nodup_words _ _ _) ?_
  intro word hname hword
  exact (mem_words_iff.mp hword).2 (Or.inr hname)

/-- **What is found in a document is offered**, except under reserved labels. -/
theorem mem_complete_of_mem_foundTiers {catalog : Catalog} {text : String} {entry : Entry}
    (hentry : entry ∈ foundTiers catalog text) (hfree : ¬ IsReserved catalog entry.label) :
    entry ∈ complete catalog text := by
  rw [complete_eq, distinctBy_eq_self (nodup_map_label_foundTiers catalog text)]
  refine List.mem_append_right _ (List.mem_filter.mpr ⟨hentry, ?_⟩)
  rw [List.contains_eq_mem, decide_eq_false fun hlabel =>
    hfree (mem_map_label_fixedTiers_iff.mp hlabel)]
  rfl

theorem exists_label_of_mem_tiers {catalog : Catalog} {text : String} {entry : Entry}
    (h : entry ∈ tiers catalog text) :
    ∃ first ∈ complete catalog text, first.label = entry.label :=
  exists_mem_distinctBy_iff.mpr ⟨entry, h, rfl⟩

/-- **Every reserved label is offered**, whatever is found in the document. -/
theorem exists_label_of_isReserved {catalog : Catalog} {label : String}
    (h : IsReserved catalog label) (text : String) :
    ∃ entry ∈ complete catalog text, entry.label = label := by
  obtain ⟨entry, hentry, rfl⟩ := List.mem_map.mp (mem_map_label_fixedTiers_iff.mpr h)
  refine exists_label_of_mem_tiers ?_
  rw [tiers_eq]
  exact List.mem_append_left _ hentry

/-- **Every word of a document is offered**, as a word or as the name that it is. -/
theorem exists_label_of_isWordAt {catalog : Catalog} {text : String} {start : Nat} {word : String}
    (h : IsWordAt text start word) : ∃ entry ∈ complete catalog text, entry.label = word := by
  by_cases htaken : IsTaken catalog (classify catalog text) word
  · rcases htaken with howned | hname
    · exact exists_label_of_isReserved (Or.inl howned) text
    · obtain ⟨identifier, hidentifier, rfl⟩ := List.mem_map.mp hname
      have hmem : Entry.ofIdentifier identifier ∈ tiers catalog text := by
        rw [tiers_eq]
        exact List.mem_append_right _ (List.mem_append_left _ (List.mem_map_of_mem hidentifier))
      exact exists_label_of_mem_tiers hmem
  · have hword : word ∈ words catalog text (classify catalog text) :=
      mem_words_iff.mpr ⟨⟨start, h⟩, htaken⟩
    have hmem : Entry.ofWord word ∈ tiers catalog text := by
      rw [tiers_eq]
      exact List.mem_append_right _ (List.mem_append_right _ (List.mem_map_of_mem hword))
    exact exists_label_of_mem_tiers hmem

/-- An entry that is offered under a reserved label comes from the fixed tiers. -/
theorem mem_fixedTiers_of_isReserved {catalog : Catalog} {text : String} {entry : Entry}
    (hentry : entry ∈ complete catalog text) (hreserved : IsReserved catalog entry.label) :
    entry ∈ fixedTiers catalog := by
  unfold complete at hentry
  rw [tiers_eq] at hentry
  exact mem_of_mem_distinctBy_append hentry (mem_map_label_fixedTiers_iff.mpr hreserved)

/-- **The first entry of each label is offered.** The seven tiers are taken one after another:
the labels of what is offered are pairwise different, the entries stand in the order of the
tiers, an entry is offered exactly if it is the first of its label, and no label is lost.
Therefore nothing that was found in the document is offered under the name of a command, a
keyword or a variable, a shortcut or an angle, and what is offered for an empty document comes
first. -/
theorem complete_precedence (catalog : Catalog) (text : String) :
    let found := classify catalog text
    let extracted := words catalog text found
    let all := commands catalog ++ commandShortcuts catalog ++ configVariables catalog
      ++ keywords catalog ++ constants ++ found.map Entry.ofIdentifier
      ++ extracted.map Entry.ofWord
    ((complete catalog text).map Entry.label).Nodup
      ∧ (complete catalog text).Sublist all
      ∧ (∀ entry, entry ∈ complete catalog text ↔ IsFirstOfLabel all entry)
      ∧ (∀ entry ∈ all, ∃ first ∈ complete catalog text,
          first.label = entry.label ∧ IsFirstOfLabel all first)
      ∧ (∀ entry ∈ complete catalog text,
          entry ∈ found.map Entry.ofIdentifier ∨ entry ∈ extracted.map Entry.ofWord →
            ¬ IsReserved catalog entry.label)
      ∧ complete catalog "" <+: complete catalog text := by
  intro found extracted all
  have hfirst : ∀ entry, entry ∈ complete catalog text ↔ IsFirstOfLabel all entry :=
    fun _ => mem_distinctBy_iff
  refine ⟨nodup_map_distinctBy Entry.label all, sublist_distinctBy Entry.label all, hfirst,
    ?_, ?_, ?_⟩
  · intro entry hentry
    obtain ⟨first, hmem, hlabel⟩ := exists_label_of_mem_tiers hentry
    exact ⟨first, hmem, hlabel, (hfirst first).mp hmem⟩
  · intro entry hentry hproduced hreserved
    -- an entry of the fixed tiers does not look like one that was found
    have hfixed : showsFound entry = false :=
      showsFound_of_mem_fixedTiers catalog entry (mem_fixedTiers_of_isReserved hentry hreserved)
    have hfound : showsFound entry = true :=
      showsFound_of_mem_foundTiers catalog text entry (List.mem_append.mpr hproduced)
    exact Bool.false_ne_true (hfixed.symm.trans hfound)
  · rw [complete_eq catalog text]
    exact List.prefix_append _ _

end TurtleAssist
