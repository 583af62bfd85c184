import Mathlib.Data.List.Basic
import TurtleAssist.Diagnostic.Engine

/-!
# From a document to its lines

Everything that is said of the diagnostics of a document is said line by line.
`mem_diagnose_iff` is the bridge: a diagnostic of the document is a diagnostic of the line
whose number it carries, and of that line alone. What a line is told is decided by the
first of the rules that is found in it, and by the last tier if there is none
(`diagnoseLine_of_rule`, `diagnoseLine_of_no_rule`).
-/

namespace TurtleAssist

open Text (Line Span)

/-- A diagnostic for a span of a numbered line. -/
def Diagnostic.onLine (index : Nat) (line : Line) (span : Span) (message : String)
    (severity : Severity) (tier : Tier) : Diagnostic where
  line := index
  startColumn := Text.units (line.take span.start)
  endColumn := Text.units (line.take span.stop)
  message
  severity
  tier

/-! ## The rules of an engine -/

theorem Rule.compiled_eq_ok_iff {compiler : Compiler} {rule ready : Rule} :
    Rule.compiled compiler rule = .ok ready
      ↔ ready = rule ∧ compiler.accepts rule.pattern = true :=
  Compiler.map_compile_eq_ok_iff

/-- Rules are accepted together if each of them is, and stay as they are. -/
theorem Rule.mapM_compiled_eq_ok_iff {compiler : Compiler} {rules ready : List Rule} :
    rules.mapM (Rule.compiled compiler) = .ok ready
      ↔ ready = rules ∧ ∀ rule ∈ rules, compiler.accepts rule.pattern = true := by
  induction rules generalizing ready with
  | nil =>
    show Except.ok [] = Except.ok ready ↔ _
    rw [Except.ok.injEq, eq_comm]
    exact (and_iff_left nofun).symm
  | cons rule rules ih =>
    rw [List.mapM_cons, List.forall_mem_cons]
    cases hrule : Rule.compiled compiler rule with
    | error failure =>
      have hrefused : ¬ compiler.accepts rule.pattern = true :=
        fun h => nomatch hrule.symm.trans (Rule.compiled_eq_ok_iff.mpr ⟨rfl, h⟩)
      exact iff_of_false nofun fun hall => hrefused hall.2.1
    | ok first =>
      obtain ⟨rfl, haccepts⟩ := Rule.compiled_eq_ok_iff.mp hrule
      cases hrules : rules.mapM (Rule.compiled compiler) with
      | error failure =>
        have hrefused : ¬ ∀ rule ∈ rules, compiler.accepts rule.pattern = true :=
          fun hall => nomatch hrules.symm.trans (ih.mpr ⟨rfl, hall⟩)
        exact iff_of_false nofun fun hall => hrefused hall.2.2
      | ok others =>
        obtain ⟨rfl, hall⟩ := ih.mp hrules
        show Except.ok (first :: others) = _ ↔ _
        rw [Except.ok.injEq, eq_comm]
        exact (and_iff_left ⟨haccepts, hall⟩).symm

namespace Engine

variable {compiler : Compiler} {catalog : Catalog} {engine : Engine} {known : Option KnownNames}
  {line : Line} {index : Nat}

/-- **The engine of a catalog** has the rules of the catalog, and there is one exactly if
each of these is accepted. -/
theorem build_eq_ok_iff :
    Engine.build compiler catalog = .ok engine
      ↔ engine = ⟨catalog, Rule.ofCatalog catalog, compiler⟩
        ∧ ∀ rule ∈ Rule.ofCatalog catalog, compiler.accepts rule.pattern = true := by
  unfold Engine.build
  cases hrules : (Rule.ofCatalog catalog).mapM (Rule.compiled compiler) with
  | error failure =>
    have hrefused : ¬ ∀ rule ∈ Rule.ofCatalog catalog, compiler.accepts rule.pattern = true :=
      fun hall => nomatch hrules.symm.trans (Rule.mapM_compiled_eq_ok_iff.mpr ⟨rfl, hall⟩)
    exact iff_of_false nofun fun h => hrefused h.2
  | ok rules =>
    obtain ⟨rfl, hall⟩ := Rule.mapM_compiled_eq_ok_iff.mp hrules
    show Except.ok _ = _ ↔ _
    rw [Except.ok.injEq, eq_comm]
    exact (and_iff_left hall).symm

theorem firstRule?_eq_none_iff :
    engine.firstRule? line = none ↔ ∀ rule ∈ engine.rules, rule.pattern.isIn line = false := by
  unfold firstRule?
  rw [List.findSome?_eq_none_iff]
  refine forall_congr' fun rule => forall_congr' fun _ => ?_
  rw [Option.map_eq_none_iff, Pattern.isIn, Option.isSome_eq_false_iff, Option.isNone_iff_eq_none]

/-! ## What a line is told -/

/-- A line in which a rule is found is told what the first such rule says. -/
theorem diagnoseLine_of_rule {rule : Rule} {span : Span}
    (h : engine.firstRule? line = some (rule, span)) :
    engine.diagnoseLine known (line, index)
      = some (.onLine index line span rule.message rule.severity rule.tier) := by
  simp only [diagnoseLine, h]
  rfl

/-- A line in which no rule is found is left to the last tier. -/
theorem diagnoseLine_of_no_rule (h : engine.firstRule? line = none) :
    engine.diagnoseLine known (line, index)
      = (known.bind (·.find? line)).map fun span =>
          .onLine index line span unknownIdentifierMessage .warning .unknownIdentifier := by
  simp only [diagnoseLine, h]
  cases known with
  | none => rfl
  | some known =>
    show (known.find? line).bind _ = (known.find? line).map _
    cases known.find? line with
    | none => rfl
    | some span => rfl

/-- The diagnostic of a line carries the number of the line. -/
theorem line_of_diagnoseLine {diagnostic : Diagnostic}
    (h : engine.diagnoseLine known (line, index) = some diagnostic) :
    diagnostic.line = index := by
  cases hrule : engine.firstRule? line with
  | some found =>
    rw [diagnoseLine_of_rule hrule] at h
    cases h
    rfl
  | none =>
    rw [diagnoseLine_of_no_rule hrule, Option.map_eq_some_iff] at h
    obtain ⟨span, -, rfl⟩ := h
    rfl

/-- The known names of a document, unless their pattern is refused. -/
def knownOf (engine : Engine) (text : String) : Option KnownNames :=
  (KnownNames.ofIdentifiers engine.compiler engine.catalog
    (classify engine.catalog text)).toOption

/-- An engine asks the compiler that has made it. -/
theorem knownOf_of_build (h : Engine.build compiler catalog = .ok engine) (text : String) :
    engine.knownOf text
      = (KnownNames.ofIdentifiers compiler catalog (classify catalog text)).toOption := by
  rw [(build_eq_ok_iff.mp h).1]
  rfl

/-- A document of one line has the diagnostic of the line. -/
theorem diagnose_of_lines {text : String} (h : Text.lines text.toList = [line]) :
    engine.diagnose text = (engine.diagnoseLine (engine.knownOf text) (line, 0)).toList := by
  show (Text.lines text.toList).zipIdx.filterMap (engine.diagnoseLine (engine.knownOf text)) = _
  rw [h, List.zipIdx_singleton, List.filterMap_cons, List.filterMap_nil]
  cases engine.diagnoseLine (engine.knownOf text) (line, 0) with
  | none => rfl
  | some diagnostic => rfl

/-- **The diagnostics of a document are those of its lines.** -/
theorem mem_diagnose_iff {text : String} {diagnostic : Diagnostic} :
    diagnostic ∈ engine.diagnose text ∧ diagnostic.line = index
      ↔ ∃ line, (Text.lines text.toList)[index]? = some line
          ∧ engine.diagnoseLine (engine.knownOf text) (line, index) = some diagnostic := by
  show diagnostic ∈ (Text.lines text.toList).zipIdx.filterMap
    (engine.diagnoseLine (engine.knownOf text)) ∧ _ ↔ _
  rw [List.mem_filterMap]
  constructor
  · rintro ⟨⟨⟨line, number⟩, hmem, hdiagnostic⟩, rfl⟩
    rw [line_of_diagnoseLine hdiagnostic]
    exact ⟨line, List.mem_zipIdx_iff_getElem?.mp hmem, hdiagnostic⟩
  · rintro ⟨line, hline, hdiagnostic⟩
    exact ⟨⟨(line, index), List.mem_zipIdx_iff_getElem?.mpr hline, hdiagnostic⟩,
      line_of_diagnoseLine hdiagnostic⟩

end Engine

end TurtleAssist
