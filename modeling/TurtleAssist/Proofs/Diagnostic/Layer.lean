import Mathlib.Data.List.Basic
import TurtleAssist.Proofs.Diagnostic.Fallback
import TurtleAssist.Proofs.Text.Line

/-!
# The first rule decides

Many rules may match a line, each at a place of its own. What counts is the order of the rules
and not where they match: the line is told what the first of them says, at the leftmost place
where that rule matches, even if a later rule matches further left (`IsFirstMatch`). The rules
stand in the order of their tiers, and the last tier is asked only if none of them matches.

`diagnose_layered` says this of whole documents. The last tier is the only one that depends on
the document as a whole, and so it is the only one that is lost if the known names of a document
are refused: `Engine.ruledDiagnostics` is what then remains. A single name that is too long for a
pattern is enough for that (`KnownNames.ofIdentifiers_eq_error_of_long`).
-/

namespace TurtleAssist

open Text (Line Span)
open KnownNames

/-! ## Matches of rules -/

/-- **The leftmost match of a pattern in a line**: from no place before its start a way leads
through the pattern, and its end is where the preferred way from its start ends. -/
def Pattern.IsLeftmost (pattern : Pattern) (line : Line) (span : Span) : Prop :=
  ∃ place ∈ placesFrom 0 line,
    (∃ way, (pattern.ways place).head? = some way ∧ span = ⟨place.offset, way.stop.offset⟩)
      ∧ ∀ earlier ∈ placesFrom 0 line, earlier.offset < place.offset → pattern.ways earlier = []

/-- The rule matches somewhere in the line. -/
def Rule.Matches (rule : Rule) (line : Line) : Prop :=
  ∃ place ∈ Pattern.placesFrom 0 line, rule.pattern.ways place ≠ []

/-- **The first rule that matches a line**, with its leftmost match. -/
def IsFirstMatch (rules : List Rule) (line : Line) (rule : Rule) (span : Span) : Prop :=
  ∃ before after, rules = before ++ rule :: after
    ∧ (∀ earlier ∈ before, ¬ earlier.Matches line) ∧ rule.pattern.IsLeftmost line span

theorem Pattern.map_span_find?_eq_some_iff {pattern : Pattern} {line : Line} {span : Span} :
    (pattern.find? line).map (·.span) = some span ↔ pattern.IsLeftmost line span := by
  unfold IsLeftmost
  simp only [Option.map_eq_some_iff, find?_eq_some_iff, matchAt?]
  constructor
  · rintro ⟨_, ⟨place, hplace, ⟨way, hway, rfl⟩, hleftmost⟩, rfl⟩
    exact ⟨place, hplace, ⟨way, hway, rfl⟩, hleftmost⟩
  · rintro ⟨place, hplace, ⟨way, hway, rfl⟩, hleftmost⟩
    exact ⟨_, ⟨place, hplace, ⟨way, hway, rfl⟩, hleftmost⟩, rfl⟩

theorem Rule.not_matches_iff {rule : Rule} {line : Line} :
    ¬ rule.Matches line ↔ rule.pattern.find? line = none := by
  unfold Rule.Matches
  rw [Pattern.find?_eq_none_iff]
  simp only [not_exists, not_and, not_not]

section

variable {rules : List Rule} {line : Line} {rule : Rule} {span : Span}

theorem IsFirstMatch.mem (h : IsFirstMatch rules line rule span) : rule ∈ rules := by
  obtain ⟨before, after, rfl, -⟩ := h
  exact List.mem_append_right before List.mem_cons_self

theorem IsFirstMatch.isLeftmost (h : IsFirstMatch rules line rule span) :
    rule.pattern.IsLeftmost line span := by
  obtain ⟨before, after, -, -, hleftmost⟩ := h
  exact hleftmost

theorem Rule.matches_of_isLeftmost (h : rule.pattern.IsLeftmost line span) :
    rule.Matches line := by
  obtain ⟨place, hplace, ⟨way, hway, -⟩, -⟩ := h
  exact ⟨place, hplace, List.ne_nil_of_mem (List.mem_of_head? hway)⟩

theorem IsFirstMatch.matches (h : IsFirstMatch rules line rule span) : rule.Matches line :=
  Rule.matches_of_isLeftmost h.isLeftmost

end

namespace Rule

/-! ## The rules of a catalog -/

/-- **The tiers of the rules**, one after another. -/
theorem map_tier_ofCatalog (catalog : Catalog) :
    (Rule.ofCatalog catalog).map Rule.tier
      = List.replicate 3 .style ++ List.replicate 5 .structural
        ++ List.replicate catalog.commands.length .argumentCount
        ++ List.replicate (catalog.commands.filter fun command => decide (0 < command.arity)).length
          .argumentType := by
  have hcount : Rule.tier ∘ argumentCount = fun _ => Tier.argumentCount := rfl
  have htype : Rule.tier ∘ argumentType = fun _ => Tier.argumentType := rfl
  unfold ofCatalog
  rw [List.map_append, List.map_append, List.map_append, List.map_map, List.map_map, hcount, htype,
    List.map_const', List.map_const']
  rfl

theorem pairwise_rank_ofCatalog (catalog : Catalog) :
    (Rule.ofCatalog catalog).Pairwise fun one two => one.tier.rank ≤ two.tier.rank := by
  have hranks : (((Rule.ofCatalog catalog).map Rule.tier).map Tier.rank).Pairwise (· ≤ ·) := by
    rw [map_tier_ofCatalog]
    simp only [List.map_append, List.map_replicate, Tier.rank, List.pairwise_append,
      List.pairwise_replicate, List.mem_append, List.mem_replicate]
    grind
  rwa [List.pairwise_map, List.pairwise_map] at hranks

/-- No rule is of the last tier. -/
theorem tier_ne_unknownIdentifier {catalog : Catalog} {rule : Rule}
    (h : rule ∈ Rule.ofCatalog catalog) : rule.tier ≠ .unknownIdentifier := by
  have hmem : rule.tier ∈ (Rule.ofCatalog catalog).map Rule.tier := List.mem_map_of_mem h
  rw [map_tier_ofCatalog] at hmem
  intro htier
  simp [htier] at hmem

end Rule

/-- The last tier finds the span in a line of the document, which it can do only if the known
names of the document are not refused. -/
def FallbackFinds (compiler : Compiler) (catalog : Catalog) (text : String) (line : Line)
    (span : Span) : Prop :=
  ∃ known, ofIdentifiers compiler catalog (classify catalog text) = .ok known
    ∧ known.find? line = some span

namespace Engine

variable {engine : Engine} {known : Option KnownNames} {line : Line} {text : String}
  {diagnostic : Diagnostic} {index : Nat}

/-! ## What a line is told -/

theorem firstRule?_eq_some_iff {rule : Rule} {span : Span} :
    engine.firstRule? line = some (rule, span) ↔ IsFirstMatch engine.rules line rule span := by
  unfold firstRule? IsFirstMatch
  rw [List.findSome?_eq_some_iff]
  simp only [Option.map_eq_none_iff, Rule.not_matches_iff, ← Pattern.map_span_find?_eq_some_iff]
  constructor
  · rintro ⟨before, first, after, hrules, hfirst, hbefore⟩
    obtain ⟨found, hfound, heq⟩ := Option.map_eq_some_iff.mp hfirst
    obtain ⟨rfl, rfl⟩ := Prod.mk.inj heq
    exact ⟨before, after, hrules, hbefore, by rw [hfound]; rfl⟩
  · rintro ⟨before, after, hrules, hbefore, hspan⟩
    obtain ⟨found, hfound, rfl⟩ := Option.map_eq_some_iff.mp hspan
    exact ⟨before, rule, after, hrules, by rw [hfound]; rfl, hbefore⟩

theorem firstRule?_eq_none_iff_matches :
    engine.firstRule? line = none ↔ ∀ rule ∈ engine.rules, ¬ rule.Matches line := by
  simp only [firstRule?_eq_none_iff, Rule.not_matches_iff, Pattern.isIn,
    Option.isSome_eq_false_iff, Option.isNone_iff_eq_none]

/-- If any rule matches then one of them is the first. -/
theorem exists_isFirstMatch_iff :
    (∃ rule span, IsFirstMatch engine.rules line rule span)
      ↔ ∃ rule ∈ engine.rules, rule.Matches line := by
  constructor
  · rintro ⟨rule, span, hfirst⟩
    exact ⟨rule, hfirst.mem, hfirst.matches⟩
  · rintro ⟨rule, hrule, hmatches⟩
    have hfound : engine.firstRule? line ≠ none :=
      fun hnone => firstRule?_eq_none_iff_matches.mp hnone rule hrule hmatches
    obtain ⟨⟨first, span⟩, hfirst⟩ := Option.ne_none_iff_exists'.mp hfound
    exact ⟨first, span, firstRule?_eq_some_iff.mp hfirst⟩

/-- **What a line is told**, by the first rule that matches it or, if none does, by the last
tier. -/
theorem diagnoseLine_eq_some_iff :
    engine.diagnoseLine known (line, index) = some diagnostic
      ↔ (∃ rule span, IsFirstMatch engine.rules line rule span
            ∧ diagnostic = .onLine index line span rule.message rule.severity rule.tier)
        ∨ (∀ rule ∈ engine.rules, ¬ rule.Matches line)
          ∧ ∃ span, known.bind (·.find? line) = some span
            ∧ diagnostic = .onLine index line span unknownIdentifierMessage .warning
                .unknownIdentifier := by
  simp only [← firstRule?_eq_some_iff, ← firstRule?_eq_none_iff_matches]
  cases hrule : engine.firstRule? line with
  | some found =>
    obtain ⟨first, span⟩ := found
    rw [diagnoseLine_of_rule hrule]
    simp [eq_comm]
  | none =>
    rw [diagnoseLine_of_no_rule hrule, Option.map_eq_some_iff]
    simp [eq_comm]

/-- What the rules tell a numbered line, the last tier left out. -/
def ruledLine? (engine : Engine) (numbered : Line × Nat) : Option Diagnostic :=
  (engine.firstRule? numbered.1).map fun found =>
    .onLine numbered.2 numbered.1 found.2 found.1.message found.1.severity found.1.tier

/-- The diagnostics of a document, the last tier left out. -/
def ruledDiagnostics (engine : Engine) (text : String) : List Diagnostic :=
  (Text.lines text.toList).zipIdx.filterMap engine.ruledLine?

theorem diagnoseLine_none (numbered : Line × Nat) :
    engine.diagnoseLine none numbered = engine.ruledLine? numbered := by
  obtain ⟨line, index⟩ := numbered
  unfold ruledLine?
  cases hrule : engine.firstRule? line with
  | some found => exact diagnoseLine_of_rule hrule
  | none => exact diagnoseLine_of_no_rule hrule

/-- The last tier adds diagnostics of its own and changes no other. -/
theorem filter_diagnoseLine (htiers : ∀ rule ∈ engine.rules, rule.tier ≠ .unknownIdentifier)
    (numbered : Line × Nat) :
    (engine.diagnoseLine known numbered).filter (fun found => found.tier ≠ .unknownIdentifier)
      = engine.ruledLine? numbered := by
  obtain ⟨line, index⟩ := numbered
  unfold ruledLine?
  cases hrule : engine.firstRule? line with
  | some found =>
    have htier : found.1.tier ≠ .unknownIdentifier :=
      htiers found.1 (firstRule?_eq_some_iff.mp hrule).mem
    rw [diagnoseLine_of_rule hrule]
    exact Option.filter_some_pos (decide_eq_true htier)
  | none =>
    rw [diagnoseLine_of_no_rule hrule]
    cases known.bind (·.find? line) with
    | none => rfl
    | some span => rfl

/-! ## Documents -/

/-- The rules of a document are not affected by its last tier. -/
theorem filter_diagnose (htiers : ∀ rule ∈ engine.rules, rule.tier ≠ .unknownIdentifier)
    (text : String) :
    (engine.diagnose text).filter (fun found => found.tier ≠ .unknownIdentifier)
      = engine.ruledDiagnostics text := by
  unfold diagnose ruledDiagnostics
  rw [List.filter_filterMap]
  exact List.filterMap_congr fun numbered _ => filter_diagnoseLine htiers numbered

/-- Without known names the rules are all that is left. -/
theorem diagnose_of_refused (h : engine.knownOf text = none) :
    engine.diagnose text = engine.ruledDiagnostics text := by
  show (Text.lines text.toList).zipIdx.filterMap (engine.diagnoseLine (engine.knownOf text)) = _
  rw [h]
  exact List.filterMap_congr fun numbered _ => diagnoseLine_none numbered

theorem fallbackFinds_iff {span : Span} :
    FallbackFinds engine.compiler engine.catalog text line span
      ↔ (engine.knownOf text).bind (·.find? line) = some span := by
  unfold FallbackFinds knownOf
  cases ofIdentifiers engine.compiler engine.catalog (classify engine.catalog text) with
  | error failure => exact iff_of_false nofun nofun
  | ok names =>
    show (∃ known, Except.ok names = Except.ok known ∧ _) ↔ names.find? line = some span
    simp

/-- **The diagnostic of a line of a document.** -/
theorem mem_diagnose_iff_isFirstMatch (hline : (Text.lines text.toList)[index]? = some line) :
    diagnostic ∈ engine.diagnose text ∧ diagnostic.line = index
      ↔ (∃ rule span, IsFirstMatch engine.rules line rule span
            ∧ diagnostic = .onLine index line span rule.message rule.severity rule.tier)
        ∨ (∀ rule ∈ engine.rules, ¬ rule.Matches line)
          ∧ ∃ span, FallbackFinds engine.compiler engine.catalog text line span
            ∧ diagnostic = .onLine index line span unknownIdentifierMessage .warning
                .unknownIdentifier := by
  rw [mem_diagnose_iff]
  simp only [hline, Option.some.injEq, exists_eq_left', diagnoseLine_eq_some_iff,
    fallbackFinds_iff]

/-- **When a line of a document has a diagnostic.** -/
theorem exists_mem_diagnose_iff (hline : (Text.lines text.toList)[index]? = some line) :
    (∃ diagnostic ∈ engine.diagnose text, diagnostic.line = index)
      ↔ (∃ rule ∈ engine.rules, rule.Matches line)
        ∨ (∀ rule ∈ engine.rules, ¬ rule.Matches line)
          ∧ ∃ span, FallbackFinds engine.compiler engine.catalog text line span := by
  simp only [mem_diagnose_iff_isFirstMatch hline]
  rw [← exists_isFirstMatch_iff]
  constructor
  · rintro ⟨diagnostic, ⟨rule, span, hfirst, -⟩ | ⟨hnone, span, hfinds, -⟩⟩
    · exact Or.inl ⟨rule, span, hfirst⟩
    · exact Or.inr ⟨hnone, span, hfinds⟩
  · rintro (⟨rule, span, hfirst⟩ | ⟨hnone, span, hfinds⟩)
    · exact ⟨_, Or.inl ⟨rule, span, hfirst, rfl⟩⟩
    · exact ⟨_, Or.inr ⟨hnone, span, hfinds, rfl⟩⟩

theorem pairwise_line_diagnose (engine : Engine) (text : String) :
    (engine.diagnose text).Pairwise fun one two => one.line < two.line :=
  Text.pairwise_filterMap_zipIdx (fun _ _ h => line_of_diagnoseLine h) _

theorem line_lt_of_mem_diagnose (h : diagnostic ∈ engine.diagnose text) :
    diagnostic.line < (Text.lines text.toList).length := by
  obtain ⟨line, hline, -⟩ := mem_diagnose_iff.mp ⟨h, rfl⟩
  exact (List.getElem?_eq_some_iff.mp hline).1

end Engine

/-- **The first rule that matches a line decides.** The rules of a catalog are the hints on
style, the checks of structure, one rule for the number of arguments of each command and one for
their types if there are any, in the order of the tiers. A document has at most one diagnostic
on each of its lines, in their order. There is one on a line exactly if a rule matches or, where
none does, the last tier finds a form. It is that of the first rule that matches, with its
leftmost match, and the last tier is used only where no rule matches. If the known names of the
document are refused, what the rules say is all that is reported, and otherwise it is what is
reported apart from the last tier. -/
theorem diagnose_layered {compiler : Compiler} {catalog : Catalog} {engine : Engine}
    (hengine : Engine.build compiler catalog = .ok engine) :
    engine.rules = Rule.style ++ Rule.structural ++ catalog.commands.map Rule.argumentCount
        ++ (catalog.commands.filter (fun command => 0 < command.arity)).map Rule.argumentType
      ∧ engine.rules.Pairwise (fun one two => one.tier.rank ≤ two.tier.rank)
      ∧ ∀ text,
        let lines := Text.lines text.toList
        let found := engine.diagnose text
        found.Pairwise (fun one two => one.line < two.line)
          ∧ (∀ diagnostic ∈ found, diagnostic.line < lines.length)
          ∧ (∀ index line, lines[index]? = some line →
              ((∃ diagnostic ∈ found, diagnostic.line = index)
                  ↔ (∃ rule ∈ engine.rules, rule.Matches line)
                    ∨ (∀ rule ∈ engine.rules, ¬ rule.Matches line)
                      ∧ ∃ span, FallbackFinds compiler catalog text line span)
                ∧ (∀ diagnostic, diagnostic ∈ found ∧ diagnostic.line = index
                    ↔ (∃ rule span, IsFirstMatch engine.rules line rule span
                        ∧ diagnostic
                          = .onLine index line span rule.message rule.severity rule.tier)
                      ∨ (∀ rule ∈ engine.rules, ¬ rule.Matches line)
                        ∧ ∃ span, FallbackFinds compiler catalog text line span
                          ∧ diagnostic = .onLine index line span unknownIdentifierMessage .warning
                              .unknownIdentifier)
                ∧ ∀ diagnostic ∈ found, diagnostic.line = index →
                    diagnostic.tier = .unknownIdentifier →
                      ∀ rule ∈ engine.rules, ¬ rule.Matches line)
          ∧ found.filter (fun diagnostic => diagnostic.tier ≠ .unknownIdentifier)
              = engine.ruledDiagnostics text
          ∧ ∀ failure, ofIdentifiers compiler catalog (classify catalog text) = .error failure →
              found = engine.ruledDiagnostics text := by
  obtain ⟨rfl, -⟩ := Engine.build_eq_ok_iff.mp hengine
  refine ⟨rfl, Rule.pairwise_rank_ofCatalog catalog, fun text => ?_⟩
  intro lines found
  have htiers : ∀ rule ∈ Rule.ofCatalog catalog, rule.tier ≠ .unknownIdentifier :=
    fun _ => Rule.tier_ne_unknownIdentifier
  refine ⟨Engine.pairwise_line_diagnose _ text, fun _ => Engine.line_lt_of_mem_diagnose,
    fun index line hline => ⟨Engine.exists_mem_diagnose_iff hline,
      fun _ => Engine.mem_diagnose_iff_isFirstMatch hline, ?_⟩,
    Engine.filter_diagnose htiers text, fun failure hrefused => ?_⟩
  · intro diagnostic hdiagnostic hindex htier
    rcases (Engine.mem_diagnose_iff_isFirstMatch hline).mp ⟨hdiagnostic, hindex⟩ with
      ⟨rule, span, hfirst, rfl⟩ | ⟨hnone, -⟩
    · exact absurd htier (htiers rule hfirst.mem)
    · exact hnone
  · refine Engine.diagnose_of_refused ?_
    unfold Engine.knownOf
    rw [hrefused]
    rfl

/-! ## A document without its last tier -/

theorem Text.bytes_replicate (n : Nat) (c : Char) :
    Text.bytes (List.replicate n c) = n * c.utf8Size := by
  induction n with
  | zero => rw [Nat.zero_mul]; rfl
  | succ n ih =>
    show c.utf8Size + Text.bytes (List.replicate n c) = (n + 1) * c.utf8Size
    rw [ih, Nat.add_mul, Nat.one_mul, Nat.add_comm]

theorem Pattern.size_name (name : String) :
    (Pattern.name name).size = stateBytes * Text.bytes name.toList :=
  rfl

theorem Pattern.size_le_size_anyOf {pattern : Pattern} {patterns : List Pattern}
    (h : pattern ∈ patterns) : pattern.size ≤ (anyOf patterns).size := by
  induction patterns with
  | nil => cases h
  | cons first others ih =>
    cases others with
    | nil => exact Nat.le_of_eq (congrArg size (List.mem_singleton.mp h))
    | cons next others =>
      show pattern.size ≤ stateBytes + first.size + (anyOf (next :: others)).size
      rcases List.mem_cons.mp h with rfl | h
      · omega
      · have := ih h
        omega

/-- **A name that is too large for a pattern** leaves every document without known names. -/
theorem KnownNames.ofIdentifiers_eq_error_of_long {catalog : Catalog} {name : String}
    (hname : name ∈ catalog.knownNames)
    (hlong : Compiler.bounded.accepts (Pattern.name name) = false)
    (identifiers : List Identifier) :
    ofIdentifiers .bounded catalog identifiers = .error .tooLarge := by
  have hne : name ≠ "" := by
    rintro rfl
    exact absurd hlong (by decide)
  have harranged : name ∈ Pattern.arranged (namesIn catalog identifiers) :=
    Pattern.mem_arranged.mpr ⟨mem_namesIn.mpr (Or.inl hname), hne⟩
  have hsize : ¬ (Pattern.exactNames (namesIn catalog identifiers)).size ≤ Pattern.sizeLimit := by
    rw [Compiler.accepts_bounded, decide_eq_false_iff_not] at hlong
    have hle := Pattern.size_le_size_anyOf (List.mem_map_of_mem (f := Pattern.name) harranged)
    have hsome : ¬ (Pattern.arranged (namesIn catalog identifiers)).isEmpty = true :=
      fun hempty => List.ne_nil_of_mem harranged (List.isEmpty_iff.mp hempty)
    unfold Pattern.exactNames
    rw [if_neg hsome]
    show ¬ Pattern.stateBytes + (Pattern.alternation _).size + Pattern.stateBytes ≤ _
    unfold Pattern.alternation
    omega
  show (Pattern.checked _).map _ = _
  unfold Pattern.checked
  rw [if_neg hsize]
  rfl

/-- A reserved name of many characters switches the last tier off. On the first line the second
rule is told, although the third one matches further left. -/
theorem diagnose_layered_long_name :
    let catalog := { walkCatalog with builtins := [String.ofList (List.replicate 600000 'x')] }
    let engine : Engine := ⟨catalog, Rule.ofCatalog catalog, .bounded⟩
    let text := "(a ) ( b)\n(foo 1)\n(walk)"
    Engine.ofCatalog catalog = .ok engine
      ∧ ofIdentifiers .bounded catalog (classify catalog text) = .error .tooLarge
      ∧ engine.diagnose text
        = [⟨0, 5, 8, "It's recommended to remove spaces right after the opening parenthesis.",
              .information, .style⟩,
            ⟨2, 0, 6, "`walk` expected exactly 1 arguments.", .error, .argumentCount⟩] := by
  intro catalog engine text
  have hengine : Engine.ofCatalog catalog = .ok engine :=
    Engine.build_eq_ok_iff.mpr ⟨rfl, by decide +kernel⟩
  have hrefused : ofIdentifiers .bounded catalog (classify catalog text) = .error .tooLarge := by
    refine ofIdentifiers_eq_error_of_long (List.mem_append_left _ (List.mem_append_left _
      (List.mem_append_left _ List.mem_cons_self))) ?_ _
    rw [Compiler.accepts_bounded, decide_eq_false_iff_not, Pattern.size_name,
      String.toList_ofList, Text.bytes_replicate]
    decide
  refine ⟨hengine, hrefused, ?_⟩
  obtain ⟨-, -, hlayered⟩ := diagnose_layered hengine
  obtain ⟨-, -, -, -, hruled⟩ := hlayered text
  rw [hruled _ hrefused]
  decide +kernel

end TurtleAssist
