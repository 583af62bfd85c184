import TurtleAssist.Proofs.Diagnostic.Header
import TurtleAssist.Proofs.Text.Unit
import TurtleAssist.Server.Message

/-!
# What a diagnostic covers

A diagnostic carries two columns and nothing of the text between them. `diagnose_range` says what
this text is: it stands in the line, a rule of the catalog or the last tier matched it, and the
code units from the one column to the other are its encoding. The columns split no pair of the
encoded line, the byte offsets of the match are offsets at which the line can be sliced, and the
range that is published is the same as long as its numbers fit into thirty-two bits.

All of this holds of any text that stands in a line and is not empty. What remains to be shown of
the rules is that none of them matches the empty text: each one needs a character
(`Rule.needs_char`), since every pattern has a parenthesis or a bracket in it that is not
optional.
-/

namespace TurtleAssist

open Text (IsFlat IsSliceEnd IsUnitRange Line Span StandsAt form utf16)

/-! ## Rules match something -/

namespace Rule

variable {catalog : Catalog} {rule : Rule} {line : Line} {span : Span}

/-- **No rule of a catalog matches the empty text**: all of them need a character. -/
theorem needs_char (h : rule ∈ Rule.ofCatalog catalog) : rule.pattern.Needs fun _ => True := by
  have hopened : ∀ body, (Pattern.opened body).Needs fun _ => True :=
    fun body => Or.inl ⟨'(', List.mem_singleton_self _, trivial⟩
  have hclosed : ∀ body, (body ++ Pattern.text ")").Needs fun _ => True :=
    fun body => Or.inr ⟨')', List.mem_singleton_self _, trivial⟩
  have hbracket : ∀ body, (body ++ Pattern.text ">").Needs fun _ => True :=
    fun body => Or.inr ⟨'>', List.mem_singleton_self _, trivial⟩
  rcases mem_ofCatalog_cases h with h | h | ⟨command, -, rfl | rfl⟩
  · simp only [style, List.mem_cons, List.not_mem_nil, or_false] at h
    rcases h with rfl | rfl | rfl
    · exact hopened _
    · exact hopened _
    · exact hclosed _
  · simp only [structural, List.mem_cons, List.not_mem_nil, or_false] at h
    rcases h with rfl | rfl | rfl | rfl | rfl
    · exact hopened _
    · exact hopened _
    · exact hopened _
    · exact hopened _
    · exact hbracket _
  · exact hopened _
  · exact hopened _

/-- The leftmost match of a rule is a text that stands in the line and is not empty. -/
theorem exists_standsAt_of_isLeftmost (h : rule ∈ Rule.ofCatalog catalog)
    (hleftmost : rule.pattern.IsLeftmost line span) :
    ∃ matched, StandsAt line span matched ∧ rule.pattern.Accepts matched ∧ matched ≠ [] := by
  obtain ⟨matched, hstands, haccepts⟩ := hleftmost.exists_standsAt (isPlaceless_of_mem h)
  obtain ⟨c, hc, -⟩ := (needs_char h).exists_mem haccepts
  exact ⟨matched, hstands, haccepts, List.ne_nil_of_mem hc⟩

end Rule

/-! ## Published ranges -/

/-- **The range of a diagnostic**, as it is published: the columns of the diagnostic, both on its
line. -/
structure Server.Range.IsOf (range : Server.Range) (diagnostic : Diagnostic) : Prop where
  start_line : range.start.line.toNat = diagnostic.line
  start_character : range.start.character.toNat = diagnostic.startColumn
  stop_line : range.stop.line = range.start.line
  stop_character : range.stop.character.toNat = diagnostic.endColumn

/-- Numbers of thirty-two bits are published as they are. -/
theorem Server.PublishedDiagnostic.isOf_range {diagnostic : Diagnostic}
    (hline : diagnostic.line < UInt32.size) (hstart : diagnostic.startColumn < UInt32.size)
    (hstop : diagnostic.endColumn < UInt32.size) :
    (PublishedDiagnostic.ofDiagnostic diagnostic).range.IsOf diagnostic where
  start_line := UInt32.toNat_ofNat_of_lt' hline
  start_character := UInt32.toNat_ofNat_of_lt' hstart
  stop_line := rfl
  stop_character := UInt32.toNat_ofNat_of_lt' hstop

/-! ## The theorem -/

/-- **What is reported at a span of a line**: the match of the first rule that matches the line
or, where none does, the innermost form that the last tier finds. -/
inductive IsReported (engine : Engine) (text : String) (line : Line) (span : Span)
    (matched : List Char) (diagnostic : Diagnostic) : Prop where
  | rule (rule : Rule) (isFirstMatch : IsFirstMatch engine.rules line rule span)
      (accepts : rule.pattern.Accepts matched)
      (diagnostic_eq : diagnostic
        = .onLine diagnostic.line line span rule.message rule.severity rule.tier)
  | form (not_matches : ∀ rule ∈ engine.rules, ¬ rule.Matches line)
      (finds : FallbackFinds engine.compiler engine.catalog text line span)
      (inside : List Char) (flat : IsFlat inside) (matched_eq : matched = form inside)
      (diagnostic_eq : diagnostic = .onLine diagnostic.line line span unknownIdentifierMessage
        .warning .unknownIdentifier)

/-- A diagnostic reports something that stands in its line and is not empty. -/
theorem exists_isReported {compiler : Compiler} {catalog : Catalog} {engine : Engine}
    (hengine : Engine.build compiler catalog = .ok engine) {text : String} {diagnostic : Diagnostic}
    (hmem : diagnostic ∈ engine.diagnose text) :
    ∃ line span matched, (Text.lines text.toList)[diagnostic.line]? = some line
      ∧ StandsAt line span matched ∧ matched ≠ []
      ∧ IsReported engine text line span matched diagnostic := by
  obtain ⟨rfl, -⟩ := Engine.build_eq_ok_iff.mp hengine
  obtain ⟨line, hline, -⟩ := Engine.mem_diagnose_iff.mp ⟨hmem, rfl⟩
  rcases (Engine.mem_diagnose_iff_isFirstMatch hline).mp ⟨hmem, rfl⟩ with
    ⟨rule, span, hfirst, heq⟩ | ⟨hnone, span, hfinds, heq⟩
  · obtain ⟨matched, hstands, haccepts, hne⟩ :=
      Rule.exists_standsAt_of_isLeftmost hfirst.mem hfirst.isLeftmost
    exact ⟨line, span, matched, hline, hstands, hne, .rule rule hfirst haccepts heq⟩
  · obtain ⟨inside, hinner⟩ := hfinds.exists_isInnermost
    obtain ⟨hflat, hstands⟩ := KnownNames.isInnermost_iff.mp hinner
    exact ⟨line, span, form inside, hline, hstands, List.cons_ne_nil _ _,
      .form hnone hfinds inside hflat rfl heq⟩

/-- **The columns of a diagnostic are those of the text that was matched.** The line of a
diagnostic is one of the document, and the text that the rule or the last tier matched stands in
it, at byte offsets at which the line can be sliced. The columns are the lengths of the two slices
in UTF-16 code units. They come one after the other, lie in the encoded line and split no pair in
it, and the units between them encode the text that was matched. The range that is published is
the same, if its numbers have no more than thirty-two bits. -/
theorem diagnose_range {compiler : Compiler} {catalog : Catalog} {engine : Engine}
    (hengine : Engine.build compiler catalog = .ok engine) {text : String} {diagnostic : Diagnostic}
    (hmem : diagnostic ∈ engine.diagnose text) :
    ∃ line span matched, (Text.lines text.toList)[diagnostic.line]? = some line
      ∧ StandsAt line span matched ∧ IsReported engine text line span matched diagnostic
      ∧ IsSliceEnd line (span.inBytes line).start (line.take span.start)
      ∧ IsSliceEnd line (span.inBytes line).stop (line.take span.stop)
      ∧ diagnostic.startColumn = (utf16 (line.take span.start)).length
      ∧ diagnostic.endColumn = (utf16 (line.take span.stop)).length
      ∧ IsUnitRange line diagnostic.startColumn diagnostic.endColumn matched
      ∧ (diagnostic.line < UInt32.size → diagnostic.startColumn < UInt32.size →
          diagnostic.endColumn < UInt32.size →
            (Server.PublishedDiagnostic.ofDiagnostic diagnostic).range.IsOf diagnostic) := by
  obtain ⟨line, span, matched, hline, hstands, hne, hreported⟩ := exists_isReported hengine hmem
  have hcolumns : diagnostic.startColumn = Text.units (line.take span.start)
      ∧ diagnostic.endColumn = Text.units (line.take span.stop) := by
    cases hreported with
    | rule rule _ _ heq =>
      rw [heq]
      exact ⟨rfl, rfl⟩
    | form _ _ _ _ _ heq =>
      rw [heq]
      exact ⟨rfl, rfl⟩
  obtain ⟨hstart, hstop⟩ := hcolumns
  refine ⟨line, span, matched, hline, hstands, hreported, Text.isSliceEnd_take line _,
    Text.isSliceEnd_take line _, ?_, ?_, ?_, Server.PublishedDiagnostic.isOf_range⟩
  · rw [hstart, Text.length_utf16]
  · rw [hstop, Text.length_utf16]
  · rw [hstart, hstop]
    exact hstands.isUnitRange hne

/-- A call with a character of two units in front of it. -/
theorem diagnose_range_turtle :
    let engine : Engine := ⟨strollCatalog, Rule.ofCatalog strollCatalog, .bounded⟩
    let told : Diagnostic :=
      ⟨1, 5, 11, "`walk` expected exactly 1 arguments.", .error, .argumentCount⟩
    let text := "( a)\n; 🐢 (walk)"
    Engine.ofCatalog strollCatalog = .ok engine ∧ told ∈ engine.diagnose text
      ∧ ∃ line span matched, (Text.lines text.toList)[1]? = some line
        ∧ StandsAt line span matched ∧ IsReported engine text line span matched told
        ∧ IsUnitRange line 5 11 matched
        ∧ (Server.PublishedDiagnostic.ofDiagnostic told).range.IsOf told := by
  intro engine told text
  have hengine : Engine.ofCatalog strollCatalog = .ok engine := ofCatalog_strollCatalog
  have htold : told ∈ engine.diagnose text := by decide +kernel
  obtain ⟨line, span, matched, hline, hstands, hreported, -, -, -, -, hrange, hpublished⟩ :=
    diagnose_range hengine htold
  exact ⟨hengine, htold, line, span, matched, hline, hstands, hreported, hrange,
    hpublished (by decide) (by decide) (by decide)⟩

end TurtleAssist
