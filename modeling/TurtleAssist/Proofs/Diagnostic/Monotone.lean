import Mathlib.Data.List.Basic
import TurtleAssist.Proofs.Diagnostic.Fallback
import TurtleAssist.Proofs.Text.Line

/-!
# Lines, and the document they stand in

What the rules say of a line depends on the line alone. The last tier asks the document as
well, but only for the names that its lines define, and these do not depend on the order of
the lines or on how often each occurs. So a line keeps its diagnostic when lines are
exchanged or repeated, and more lines can only make more heads known.

`diagnose_monotone` puts this together for two documents of which one has all the lines of
the other. The line in question may stand anywhere in both.
-/

namespace TurtleAssist

open Text (Line Span)
open KnownNames

/-! ## More lines make more heads known -/

section

variable {compiler : Compiler} {catalog : Catalog} {few many : List Line}
  {knownFew knownMany : KnownNames} {line : Line} {head : List Char}

/-- A head stays unknown if each variable or function is matched by one of the same name. -/
theorem IsUnknown.of_names {identifiers others : List Identifier}
    (h : IsUnknown catalog others line head)
    (hnames : ∀ identifier ∈ identifiers, identifier.role.IsDefinition →
      ∃ other ∈ others, other.role.IsDefinition ∧ other.name = identifier.name) :
    IsUnknown catalog identifiers line head where
  not_isInteger := h.not_isInteger
  not_of_catalog := h.not_of_catalog
  not_defined := by
    intro identifier hidentifier hrole hname
    obtain ⟨other, hother, hrole', hname'⟩ := hnames identifier hidentifier hrole
    exact h.not_defined other hother hrole' (hname'.trans hname)
  not_parameter := h.not_parameter

/-- A head that is unknown in a document is unknown in each document with fewer lines. -/
theorem IsUnknown.of_subset (hclean : ∀ line ∈ many, Text.IsClean line) (hsubset : few ⊆ many)
    (h : IsUnknown catalog (classify catalog (Text.ofLines many)) line head) :
    IsUnknown catalog (classify catalog (Text.ofLines few)) line head := by
  refine h.of_names fun identifier hidentifier hrole => ?_
  -- the name is defined by a line of the smaller document, and hence of the larger one
  obtain ⟨definition, hmem, hdefines⟩ :=
    exists_mem_classify_iff.mp ⟨identifier, hidentifier, hrole, rfl⟩
  rw [Text.lines_ofLines fun line hline => hclean line (hsubset hline)] at hmem
  refine exists_mem_classify_iff.mpr ⟨definition, ?_, hdefines⟩
  rw [Text.lines_ofLines hclean]
  exact hsubset hmem

/-- Where the larger document reports a line, the smaller one does, at the same place or
further left. -/
theorem exists_find?_of_subset (hclean : ∀ line ∈ many, Text.IsClean line) (hsubset : few ⊆ many)
    (hfew : ofIdentifiers compiler catalog (classify catalog (Text.ofLines few)) = .ok knownFew)
    (hmany : ofIdentifiers compiler catalog (classify catalog (Text.ofLines many)) = .ok knownMany)
    {span : Span} (h : knownMany.find? line = some span) :
    ∃ first, knownFew.find? line = some first ∧ first.start ≤ span.start := by
  obtain ⟨⟨inside, head, hinner, hhead, hunknown⟩, -⟩ :=
    (KnownNames.find?_eq_some_iff hmany).mp h
  have hflagged :
      IsFlagged (IsUnknown catalog (classify catalog (Text.ofLines few)) line) line span :=
    ⟨inside, head, hinner, hhead, hunknown.of_subset hclean hsubset⟩
  have hfound : knownFew.find? line ≠ none := fun hnone =>
    (KnownNames.find?_eq_none_iff hfew).mp hnone span hflagged
  obtain ⟨first, hfirst⟩ := Option.ne_none_iff_exists'.mp hfound
  exact ⟨first, hfirst, ((KnownNames.find?_eq_some_iff hfew).mp hfirst).2 span hflagged⟩

/-- Documents with the same lines report the same of each line. -/
theorem find?_eq_of_subset (hclean : ∀ line ∈ many, Text.IsClean line)
    (hclean' : ∀ line ∈ few, Text.IsClean line) (hsubset : few ⊆ many) (hsubset' : many ⊆ few)
    (hfew : ofIdentifiers compiler catalog (classify catalog (Text.ofLines few)) = .ok knownFew)
    (hmany : ofIdentifiers compiler catalog (classify catalog (Text.ofLines many)) = .ok knownMany) :
    knownFew.find? line = knownMany.find? line := by
  have hsame : IsUnknown catalog (classify catalog (Text.ofLines few)) line
      = IsUnknown catalog (classify catalog (Text.ofLines many)) line := by
    funext head
    exact propext ⟨IsUnknown.of_subset hclean' hsubset', IsUnknown.of_subset hclean hsubset⟩
  refine Option.ext fun span => ?_
  rw [KnownNames.find?_eq_some_iff hfew, KnownNames.find?_eq_some_iff hmany, hsame]

end

/-! ## The same line in two documents -/

/-- A diagnostic for a span of a line is the same on every line, but for its number. -/
theorem Diagnostic.eq_onLine_iff {diagnostic : Diagnostic} {line : Line} {span : Span}
    {message : String} {severity : Severity} {tier : Tier} (i j : Nat) :
    .onLine i line span message severity tier = { diagnostic with line := i }
      ↔ .onLine j line span message severity tier = { diagnostic with line := j } := by
  simp [Diagnostic.onLine]

/-- The diagnostics of a document on one of its lines. -/
theorem Engine.mem_diagnose_ofLines_iff {engine : Engine} {lines : List Line} {line : Line}
    {index : Nat} {diagnostic : Diagnostic} (hclean : ∀ line ∈ lines, Text.IsClean line)
    (hline : lines[index]? = some line) :
    diagnostic ∈ engine.diagnose (Text.ofLines lines) ∧ diagnostic.line = index
      ↔ engine.diagnoseLine (engine.knownOf (Text.ofLines lines)) (line, index)
          = some diagnostic := by
  rw [Engine.mem_diagnose_iff, Text.lines_ofLines hclean, hline]
  simp only [Option.some.injEq, exists_eq_left']

/-- Where a rule is found in a line, the document does not matter. -/
theorem Engine.diagnoseLine_eq_some_iff_of_rule {engine : Engine} {known known' : Option KnownNames}
    {line : Line} {found : Rule × Span} (h : engine.firstRule? line = some found)
    (diagnostic : Diagnostic) (i j : Nat) :
    engine.diagnoseLine known (line, i) = some { diagnostic with line := i }
      ↔ engine.diagnoseLine known' (line, j) = some { diagnostic with line := j } := by
  obtain ⟨rule, span⟩ := found
  rw [diagnoseLine_of_rule h, diagnoseLine_of_rule h, Option.some.injEq, Option.some.injEq]
  exact Diagnostic.eq_onLine_iff i j

section

variable {compiler : Compiler} {catalog : Catalog} {engine : Engine} {few many : List Line}
  {knownFew knownMany : KnownNames} {i j : Nat} {line : Line}

/-- What a larger document reports of a line, a smaller one reports in the same tier, at the
same place or further left. -/
theorem Engine.exists_diagnoseLine_of_subset (hclean : ∀ line ∈ many, Text.IsClean line)
    (hsubset : few ⊆ many)
    (hfew : ofIdentifiers compiler catalog (classify catalog (Text.ofLines few)) = .ok knownFew)
    (hmany : ofIdentifiers compiler catalog (classify catalog (Text.ofLines many)) = .ok knownMany)
    {diagnostic : Diagnostic}
    (h : engine.diagnoseLine (some knownMany) (line, j) = some diagnostic) (i : Nat) :
    ∃ first, engine.diagnoseLine (some knownFew) (line, i) = some first
      ∧ first.tier = diagnostic.tier ∧ first.startColumn ≤ diagnostic.startColumn := by
  cases hrule : engine.firstRule? line with
  | some found =>
    rw [diagnoseLine_of_rule hrule] at h ⊢
    cases h
    exact ⟨_, rfl, rfl, Nat.le_refl _⟩
  | none =>
    rw [diagnoseLine_of_no_rule hrule, Option.map_eq_some_iff] at h
    obtain ⟨span, hspan, rfl⟩ := h
    obtain ⟨first, hfirst, hle⟩ := exists_find?_of_subset hclean hsubset hfew hmany hspan
    have htold : engine.diagnoseLine (some knownFew) (line, i)
        = some (.onLine i line first unknownIdentifierMessage .warning .unknownIdentifier) := by
      rw [diagnoseLine_of_no_rule hrule, Option.bind_some, hfirst]
      rfl
    exact ⟨_, htold, rfl, Text.units_take_le line hle⟩

end

/-- **A line in a document with more lines.** What the rules say of it is the same. If the
last tier reports it in the larger document, it does so in the smaller one, at the same
place or further left. If no line is new, every diagnostic of the line is the same. And a
line that is reported in the larger document is reported in the smaller one. -/
theorem diagnose_monotone {compiler : Compiler} {catalog : Catalog} {engine : Engine}
    {few many : List Line} {knownFew knownMany : KnownNames} {i j : Nat} {line : Line}
    (hengine : Engine.build compiler catalog = .ok engine)
    (hclean : ∀ line ∈ many, Text.IsClean line) (hsubset : few ⊆ many)
    (hfew : ofIdentifiers compiler catalog (classify catalog (Text.ofLines few)) = .ok knownFew)
    (hmany : ofIdentifiers compiler catalog (classify catalog (Text.ofLines many)) = .ok knownMany)
    (hi : few[i]? = some line) (hj : many[j]? = some line) :
    (∀ diagnostic : Diagnostic, diagnostic.tier ≠ .unknownIdentifier →
        ({ diagnostic with line := i } ∈ engine.diagnose (Text.ofLines few)
          ↔ { diagnostic with line := j } ∈ engine.diagnose (Text.ofLines many)))
      ∧ (∀ diagnostic ∈ engine.diagnose (Text.ofLines many), diagnostic.line = j →
          diagnostic.tier = .unknownIdentifier →
            ∃ first ∈ engine.diagnose (Text.ofLines few), first.line = i
              ∧ first.tier = .unknownIdentifier ∧ first.startColumn ≤ diagnostic.startColumn)
      ∧ (many ⊆ few → ∀ diagnostic : Diagnostic,
          ({ diagnostic with line := i } ∈ engine.diagnose (Text.ofLines few)
            ↔ { diagnostic with line := j } ∈ engine.diagnose (Text.ofLines many)))
      ∧ ((∃ diagnostic ∈ engine.diagnose (Text.ofLines many), diagnostic.line = j) →
          ∃ diagnostic ∈ engine.diagnose (Text.ofLines few), diagnostic.line = i) := by
  have hclean' : ∀ line ∈ few, Text.IsClean line := fun line hline => hclean line (hsubset hline)
  have hknownFew : engine.knownOf (Text.ofLines few) = some knownFew := by
    rw [Engine.knownOf_of_build hengine, hfew]
    rfl
  have hknownMany : engine.knownOf (Text.ofLines many) = some knownMany := by
    rw [Engine.knownOf_of_build hengine, hmany]
    rfl
  -- a diagnostic with the number of the line is one that the line is told
  have htoldFew : ∀ diagnostic : Diagnostic,
      { diagnostic with line := i } ∈ engine.diagnose (Text.ofLines few)
        ↔ engine.diagnoseLine (some knownFew) (line, i) = some { diagnostic with line := i } :=
    fun diagnostic => hknownFew ▸ (and_iff_left rfl).symm.trans
      (Engine.mem_diagnose_ofLines_iff hclean' hi)
  have htoldMany : ∀ diagnostic : Diagnostic,
      { diagnostic with line := j } ∈ engine.diagnose (Text.ofLines many)
        ↔ engine.diagnoseLine (some knownMany) (line, j) = some { diagnostic with line := j } :=
    fun diagnostic => hknownMany ▸ (and_iff_left rfl).symm.trans
      (Engine.mem_diagnose_ofLines_iff hclean hj)
  have hfewer : ∀ diagnostic ∈ engine.diagnose (Text.ofLines many), diagnostic.line = j →
      ∃ first ∈ engine.diagnose (Text.ofLines few), first.line = i
        ∧ first.tier = diagnostic.tier ∧ first.startColumn ≤ diagnostic.startColumn := by
    rintro diagnostic hdiagnostic rfl
    obtain ⟨first, hfirst, htier, hle⟩ := Engine.exists_diagnoseLine_of_subset hclean hsubset
      hfew hmany ((htoldMany diagnostic).mp hdiagnostic) i
    obtain rfl := Engine.line_of_diagnoseLine hfirst
    exact ⟨first, (htoldFew first).mpr hfirst, rfl, htier, hle⟩
  refine ⟨fun diagnostic htier => ?_, fun diagnostic hdiagnostic hline htier => ?_,
    fun hsubset' diagnostic => ?_, ?_⟩
  · rw [htoldFew, htoldMany]
    cases hrule : engine.firstRule? line with
    | some found => exact Engine.diagnoseLine_eq_some_iff_of_rule hrule diagnostic i j
    | none =>
      -- what the last tier says is of the last tier
      rw [Engine.diagnoseLine_of_no_rule hrule, Engine.diagnoseLine_of_no_rule hrule,
        Option.map_eq_some_iff, Option.map_eq_some_iff]
      refine iff_of_false ?_ ?_ <;> rintro ⟨span, -, heq⟩
      · exact htier (congrArg Diagnostic.tier heq).symm
      · exact htier (congrArg Diagnostic.tier heq).symm
  · obtain ⟨first, hfirst, hnumber, hsame, hle⟩ := hfewer diagnostic hdiagnostic hline
    exact ⟨first, hfirst, hnumber, hsame.trans htier, hle⟩
  · rw [htoldFew, htoldMany]
    cases hrule : engine.firstRule? line with
    | some found => exact Engine.diagnoseLine_eq_some_iff_of_rule hrule diagnostic i j
    | none =>
      rw [Engine.diagnoseLine_of_no_rule hrule, Engine.diagnoseLine_of_no_rule hrule,
        Option.bind_some, Option.bind_some,
        find?_eq_of_subset hclean hclean' hsubset hsubset' hfew hmany, Option.map_eq_some_iff,
        Option.map_eq_some_iff]
      exact exists_congr fun span => and_congr_right fun _ => Diagnostic.eq_onLine_iff i j
  · rintro ⟨diagnostic, hdiagnostic, hline⟩
    obtain ⟨first, hfirst, hnumber, -⟩ := hfewer diagnostic hdiagnostic hline
    exact ⟨first, hfirst, hnumber⟩

/-- A line with two forms, alone and after the definition of the head of the first. -/
theorem diagnose_monotone_bar_foo :
    let line := "(bar 2) (foo 1)".toList
    let many := ["(define bar 1)".toList, line]
    let engine : Engine := ⟨walkCatalog, Rule.ofCatalog walkCatalog, .bounded⟩
    Engine.ofCatalog walkCatalog = .ok engine
      ∧ (∀ line ∈ many, Text.IsClean line) ∧ [line] ⊆ many
      ∧ (∃ known, ofIdentifiers .bounded walkCatalog (classify walkCatalog (Text.ofLines [line]))
          = .ok known)
      ∧ (∃ known, ofIdentifiers .bounded walkCatalog (classify walkCatalog (Text.ofLines many))
          = .ok known)
      ∧ [line][0]? = some line ∧ many[1]? = some line
      ∧ ∀ diagnostic ∈ engine.diagnose (Text.ofLines many), diagnostic.line = 1 →
          diagnostic.tier = .unknownIdentifier →
            ∃ first ∈ engine.diagnose (Text.ofLines [line]), first.line = 0
              ∧ first.tier = .unknownIdentifier ∧ first.startColumn ≤ diagnostic.startColumn := by
  intro line many engine
  have hengine : Engine.ofCatalog walkCatalog = .ok engine := ofCatalog_walkCatalog
  have hclean : ∀ line ∈ many, Text.IsClean line := by decide
  have hsubset : [line] ⊆ many := List.cons_subset.mpr ⟨by decide, List.nil_subset _⟩
  have hfew : classify walkCatalog (Text.ofLines [line]) = [] := by
    rw [classify_of_nodup (Text.lines_ofLines fun line hline => hclean line (hsubset hline))
      (by decide) (by decide +kernel)]
    decide +kernel
  have hmany : classify walkCatalog (Text.ofLines many)
      = [⟨"bar", .variable, Role.variable.description, [], 0, none⟩] := by
    rw [classify_of_nodup (Text.lines_ofLines hclean) (by decide) (by decide +kernel)]
    decide +kernel
  obtain ⟨knownFew, hknownFew⟩ := exists_known .bounded hfew (by
    rw [Pattern.exactNames_of_pairwise (by decide +kernel)]
    decide +kernel)
  obtain ⟨knownMany, hknownMany⟩ := exists_known .bounded hmany (by
    rw [Pattern.exactNames_of_pairwise (by decide +kernel)]
    decide +kernel)
  have hi : [line][0]? = some line := rfl
  have hj : many[1]? = some line := rfl
  exact ⟨hengine, hclean, hsubset, ⟨_, hknownFew⟩, ⟨_, hknownMany⟩, hi, hj,
    (diagnose_monotone hengine hclean hsubset hknownFew hknownMany hi hj).2.1⟩

end TurtleAssist
