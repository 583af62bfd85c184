import Mathlib.Data.List.Basic
import TurtleAssist.Proofs.Diagnostic.Document
import TurtleAssist.Proofs.Diagnostic.InnerForm
import TurtleAssist.Proofs.Identifier.Name
import TurtleAssist.Proofs.Pattern.Name

/-!
# The last tier is exact

A line in which no rule is found is reported exactly if the head of one of its innermost
forms is unknown, and then the leftmost such form is what is reported
(`diagnose_of_no_rule`). `IsUnknown` says what unknown means without a pattern: a head is
known as an integer, as a name of the catalog, as a variable or function defined on any
line of the document, and as a parameter that its own line declares.

Between the two stands the pattern of the known names. It is built from one list of names
and is found in the names of that list, so asking the pattern is asking the list
(`flags_eq_true_iff`).
-/

namespace TurtleAssist

open Text (Line Span)

/-- **A head that nothing makes known** on a line of a document with the identifiers. -/
structure IsUnknown (catalog : Catalog) (identifiers : List Identifier) (line : Line)
    (head : List Char) : Prop where
  not_isInteger : ¬ IsInteger head
  not_of_catalog : String.ofList head ∉ catalog.knownNames
  not_defined : ∀ identifier ∈ identifiers,
    identifier.role = .variable ∨ identifier.role = .function →
      identifier.name ≠ String.ofList head
  not_parameter : ∀ recognition, classifyLine line = some recognition →
    recognition.rule.role = .function → String.ofList head ∉ recognition.parameters

namespace KnownNames

variable {compiler : Compiler} {catalog : Catalog} {identifiers : List Identifier}
  {known : KnownNames} {line : Line}

/-- The pattern of a number is found in the integers. -/
theorem isIn_number {token : List Char} : number.isIn token = true ↔ IsInteger token :=
  (Pattern.isIn_whole rfl).trans Pattern.accepts_integer

/-- What is known is recognised by the pattern of the names, unless this one is refused. -/
theorem ofIdentifiers_eq_ok_iff :
    ofIdentifiers compiler catalog identifiers = .ok known
      ↔ known = ⟨Pattern.exactNames (namesIn catalog identifiers)⟩
        ∧ compiler.accepts (Pattern.exactNames (namesIn catalog identifiers)) = true :=
  Compiler.map_compile_eq_ok_iff

/-- A document has known names if the pattern for its identifiers is accepted. -/
theorem exists_known (compiler : Compiler) {text : String}
    (hclassify : classify catalog text = identifiers)
    (haccepts : compiler.accepts (Pattern.exactNames (namesIn catalog identifiers)) = true) :
    ∃ known, ofIdentifiers compiler catalog (classify catalog text) = .ok known := by
  rw [hclassify]
  exact ⟨_, ofIdentifiers_eq_ok_iff.mpr ⟨rfl, haccepts⟩⟩

/-- The names of a document are those of the catalog and of its variables and functions. -/
theorem mem_namesIn {name : String} :
    name ∈ namesIn catalog identifiers
      ↔ name ∈ catalog.knownNames ∨ ∃ identifier ∈ identifiers,
          (identifier.role = .variable ∨ identifier.role = .function) ∧ identifier.name = name := by
  simp only [namesIn, List.mem_append, List.mem_map, List.mem_filter, decide_eq_true_eq, and_assoc]

/-- The parameters of a line are those of the function that it defines. -/
theorem mem_lineParameters {name : String} :
    name ∈ lineParameters line
      ↔ ∃ recognition, classifyLine line = some recognition
          ∧ recognition.rule.role = .function ∧ name ∈ recognition.parameters := by
  unfold lineParameters
  cases classifyLine line with
  | none => simp
  | some recognition =>
    by_cases hrole : recognition.rule.role = .function
    · simp [hrole]
    · simp [hrole]

/-- **A form is flagged exactly if its head is unknown.** -/
theorem flags_eq_true_iff (h : ofIdentifiers compiler catalog identifiers = .ok known)
    (form : Pattern.Match) :
    known.flags (lineParameters line) form = true
      ↔ ∃ head, head? form = some head ∧ IsUnknown catalog identifiers line head := by
  unfold flags
  cases hhead : head? form with
  | none => simp
  | some head =>
    have hne : head ≠ [] := by
      obtain ⟨capture, -, htokens⟩ := Option.bind_eq_some_iff.mp hhead
      obtain ⟨-, -, -, -, hne, -⟩ := Text.head?_tokens_eq_some_iff.mp htokens
      exact hne
    show (!number.isIn head && !known.pattern.isIn head
      && !(lineParameters line).contains (String.ofList head)) = true ↔ _
    rw [(ofIdentifiers_eq_ok_iff.mp h).1]
    simp only [Bool.and_eq_true, Bool.not_eq_true', Bool.eq_false_iff, ne_eq, isIn_number,
      Pattern.isIn_exactNames, mem_namesIn, List.contains_iff_mem, mem_lineParameters,
      Option.some.injEq, exists_eq_left', not_and, not_exists, not_or]
    constructor
    · rintro ⟨⟨hinteger, hknown⟩, hparameter⟩
      exact ⟨hinteger, (hknown hne).1, (hknown hne).2, hparameter⟩
    · rintro ⟨hinteger, hcatalog, hdefined, hparameter⟩
      exact ⟨⟨hinteger, fun _ => ⟨hcatalog, hdefined⟩⟩, hparameter⟩

/-- The last tier reports the leftmost form with an unknown head. -/
theorem find?_eq_some_iff (h : ofIdentifiers compiler catalog identifiers = .ok known) {span : Span} :
    known.find? line = some span ↔ IsFirstFlagged (IsUnknown catalog identifiers line) line span :=
  find?_findAll_eq_some_iff (flags_eq_true_iff h)

/-- It reports nothing exactly if no form has an unknown head. -/
theorem find?_eq_none_iff (h : ofIdentifiers compiler catalog identifiers = .ok known) :
    known.find? line = none ↔ ∀ span, ¬ IsFlagged (IsUnknown catalog identifiers line) line span :=
  find?_findAll_eq_none_iff (flags_eq_true_iff h)

end KnownNames

open KnownNames

/-- **The last tier is exact.** A line in which no rule is found has a diagnostic exactly if
one of its innermost forms has an unknown head. The diagnostic is a warning of the last tier
and covers the leftmost such form, from its opening to its closing parenthesis. -/
theorem diagnose_of_no_rule {compiler : Compiler} {catalog : Catalog} {engine : Engine}
    {text : String} {known : KnownNames} {index : Nat} {line : Line}
    (hengine : Engine.build compiler catalog = .ok engine)
    (hknown : ofIdentifiers compiler catalog (classify catalog text) = .ok known)
    (hline : (Text.lines text.toList)[index]? = some line)
    (hrules : ∀ rule ∈ engine.rules, rule.pattern.isIn line = false) :
    ((∃ diagnostic ∈ engine.diagnose text, diagnostic.line = index)
        ↔ ∃ span, IsFlagged (IsUnknown catalog (classify catalog text) line) line span)
      ∧ ∀ diagnostic, diagnostic ∈ engine.diagnose text ∧ diagnostic.line = index
        ↔ ∃ span, IsFirstFlagged (IsUnknown catalog (classify catalog text) line) line span
            ∧ diagnostic = .onLine index line span unknownIdentifierMessage .warning
                .unknownIdentifier := by
  have hknownOf : engine.knownOf text = some known := by
    rw [Engine.knownOf_of_build hengine, hknown]
    rfl
  have hall : ∀ diagnostic, diagnostic ∈ engine.diagnose text ∧ diagnostic.line = index
      ↔ ∃ span, known.find? line = some span
          ∧ diagnostic = .onLine index line span unknownIdentifierMessage .warning
              .unknownIdentifier := by
    intro diagnostic
    rw [Engine.mem_diagnose_iff]
    simp only [hline, Option.some.injEq, exists_eq_left', hknownOf, Option.bind_some,
      Engine.diagnoseLine_of_no_rule (Engine.firstRule?_eq_none_iff.mpr hrules),
      Option.map_eq_some_iff]
    exact exists_congr fun span => and_congr_right fun _ => eq_comm
  constructor
  · constructor
    · rintro ⟨diagnostic, hdiagnostic⟩
      obtain ⟨span, hspan, -⟩ := (hall diagnostic).mp hdiagnostic
      exact ⟨span, ((find?_eq_some_iff hknown).mp hspan).1⟩
    · rintro ⟨span, hflagged⟩
      have hfound : known.find? line ≠ none :=
        fun hnone => (find?_eq_none_iff hknown).mp hnone span hflagged
      obtain ⟨first, hfirst⟩ := Option.ne_none_iff_exists'.mp hfound
      exact ⟨_, (hall _).mpr ⟨first, hfirst, rfl⟩⟩
  · intro diagnostic
    rw [hall]
    exact exists_congr fun span => and_congr_left fun _ => find?_eq_some_iff hknown

/-- A catalog with one command and one reserved name. -/
def walkCatalog : Catalog where
  commands := [{ name := "walk", description := "", args := ["n"] }]
  keywords := []
  configVariables := []
  builtins := ["display"]

theorem ofCatalog_walkCatalog :
    Engine.ofCatalog walkCatalog = .ok ⟨walkCatalog, Rule.ofCatalog walkCatalog, .bounded⟩ :=
  Engine.build_eq_ok_iff.mpr ⟨rfl, by decide +kernel⟩

/-- What the second line of a document defines is known on the first, where the second of
three forms has an unknown head. -/
theorem diagnose_of_no_rule_baz :
    let text := "(foo (bar 1)) (baz 2) ((display 3)\n(define bar 2)"
    let line := "(foo (bar 1)) (baz 2) ((display 3)".toList
    let engine : Engine := ⟨walkCatalog, Rule.ofCatalog walkCatalog, .bounded⟩
    Engine.ofCatalog walkCatalog = .ok engine
      ∧ (∃ known, ofIdentifiers .bounded walkCatalog (classify walkCatalog text) = .ok known)
      ∧ (Text.lines text.toList)[0]? = some line
      ∧ (∀ rule ∈ engine.rules, rule.pattern.isIn line = false)
      ∧ ∃ diagnostic ∈ engine.diagnose text, diagnostic.line = 0 := by
  intro text line engine
  have hengine : Engine.ofCatalog walkCatalog = .ok engine := ofCatalog_walkCatalog
  have hlines : Text.lines text.toList = [line, "(define bar 2)".toList] := by decide +kernel
  have hclassify : classify walkCatalog text
      = [⟨"bar", .variable, Role.variable.description, [], 1, none⟩] := by
    rw [classify_of_nodup hlines (by decide) (by decide +kernel)]
    decide +kernel
  obtain ⟨known, hknown⟩ := exists_known .bounded hclassify (by
    rw [Pattern.exactNames_of_pairwise (by decide +kernel)]
    decide +kernel)
  have hline : (Text.lines text.toList)[0]? = some line := by rw [hlines]; rfl
  have hrules : ∀ rule ∈ engine.rules, rule.pattern.isIn line = false := by decide +kernel
  refine ⟨hengine, ⟨_, hknown⟩, hline, hrules, ?_⟩
  have hinner : IsInnermost line ⟨14, 21⟩ "baz 2".toList :=
    ⟨"(foo (bar 1)) ".toList, " ((display 3)".toList, rfl, by decide +kernel, rfl⟩
  have hhead : Text.IsFirstToken "baz".toList "baz 2".toList :=
    Text.head?_tokens_eq_some_iff.mp (by decide +kernel)
  refine (diagnose_of_no_rule hengine hknown hline hrules).1.mpr
    ⟨⟨14, 21⟩, "baz 2".toList, "baz".toList, hinner, hhead, ?_⟩
  rw [hclassify]
  exact {
    not_isInteger := by decide +kernel
    not_of_catalog := by decide +kernel
    not_defined := by decide +kernel
    not_parameter := by
      have hnone : classifyLine line = none := by decide +kernel
      intro recognition hrecognition
      rw [hnone] at hrecognition
      cases hrecognition }

end TurtleAssist
