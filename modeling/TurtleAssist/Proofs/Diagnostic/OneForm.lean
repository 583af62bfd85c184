import Mathlib.Data.List.Basic
import TurtleAssist.Proofs.Diagnostic.Fallback
import TurtleAssist.Proofs.Pattern.Form

/-!
# A document that is one form

The verdict on a document that is a single form, a call or a list of numbers, comes down to two
questions. The first is which rules are found in it. If it is one rule at most, and its match is
the whole line, then the order of the rules has no say (`Engine.firstRule?_eq_map`). The second
is whether the last tier knows the head: the form has no other form inside, so there is no other
head (`KnownNames.find?_form_eq_none`). With both of them answered the diagnostics are told
(`Engine.diagnose_form`).
-/

namespace TurtleAssist

open Text (IsFlat Line form)

variable {compiler : Compiler} {catalog : Catalog} {engine : Engine} {inside : List Char}
  {broken : Option Rule}

namespace Text

/-- The parentheses of a form are no line feeds. -/
theorem line_feed_not_mem_form (hfeed : '\n' ∉ inside) : '\n' ∉ form inside := by
  intro hmem
  rcases List.mem_cons.mp hmem with hmem | hmem
  · exact absurd hmem (by decide)
  · rcases List.mem_append.mp hmem with hmem | hmem
    · exact hfeed hmem
    · exact absurd (List.mem_singleton.mp hmem) (by decide)

/-- So a form without a line feed inside is one line. -/
theorem lines_form (hfeed : '\n' ∉ inside) : lines (form inside) = [form inside] :=
  lines_eq_singleton (List.cons_ne_nil _ _) (line_feed_not_mem_form hfeed)

end Text

/-- **The first rule of a line in which one rule is found at most**, with a match that is the
whole line. -/
theorem Engine.firstRule?_eq_map {line : Line}
    (hbroken : ∀ rule, rule ∈ engine.rules ∧ rule.pattern.isIn line = true ↔ broken = some rule)
    (hspan : ∀ rule found, broken = some rule → rule.pattern.find? line = some found →
      found.span = ⟨0, line.length⟩) :
    engine.firstRule? line = broken.map (·, ⟨0, line.length⟩) := by
  cases hfirst : engine.firstRule? line with
  | none =>
    have hnone : broken = none := by
      refine Option.eq_none_iff_forall_not_mem.mpr fun rule hrule => ?_
      obtain ⟨hmem, hin⟩ := (hbroken rule).mpr hrule
      rw [Engine.firstRule?_eq_none_iff.mp hfirst rule hmem] at hin
      cases hin
    rw [hnone]
    rfl
  | some result =>
    obtain ⟨rule, hmem, hresult⟩ := List.exists_of_findSome?_eq_some hfirst
    obtain ⟨found, hfound, rfl⟩ := Option.map_eq_some_iff.mp hresult
    have hrule : broken = some rule :=
      (hbroken rule).mp ⟨hmem, Option.isSome_iff_exists.mpr ⟨found, hfound⟩⟩
    rw [hspan rule found hrule hfound, hrule]
    rfl

/-- The last tier looks at the head of a form and at nothing else in it. -/
theorem KnownNames.find?_form_eq_none {identifiers : List Identifier} {known : KnownNames}
    (hknown : KnownNames.ofIdentifiers compiler catalog identifiers = .ok known)
    (hflat : IsFlat inside)
    (hhead : ∀ head ∈ (Text.tokens inside).head?,
      ¬ IsUnknown catalog identifiers (form inside) head) :
    known.find? (form inside) = none := by
  rw [KnownNames.find?_eq_none_iff hknown]
  rintro span ⟨within, head, ⟨before, after, hline, -, -⟩, hfirst, hunknown⟩
  have hform : form inside = before ++ (form within ++ after) := by
    rw [hline, form]
    simp
  obtain ⟨-, -, rfl⟩ := Pattern.eq_nil_of_form_stretch hflat hform
  exact hhead head (Text.head?_tokens_eq_some_iff.mpr hfirst) hunknown

/-- **The diagnostics of a document that is one form**: that of the rule that is found in it, if
there is one, and otherwise none if the head is known. -/
theorem Engine.diagnose_form (hengine : Engine.build compiler catalog = .ok engine)
    (hflat : IsFlat inside) (hfeed : '\n' ∉ inside)
    (hfirst : engine.firstRule? (form inside) = broken.map (·, ⟨0, (form inside).length⟩))
    (hhead : broken = none → ∀ identifiers, ∀ head ∈ (Text.tokens inside).head?,
      ¬ IsUnknown catalog identifiers (form inside) head) :
    engine.diagnose (String.ofList (form inside))
      = (broken.map fun rule => ⟨0, 0, Text.units (form inside), rule.message, rule.severity,
          rule.tier⟩).toList := by
  have hlines : Text.lines (String.ofList (form inside)).toList = [form inside] := by
    rw [String.toList_ofList, Text.lines_form hfeed]
  rw [Engine.diagnose_of_lines hlines]
  cases broken with
  | none =>
    rw [Engine.diagnoseLine_of_no_rule hfirst, Engine.knownOf_of_build hengine]
    cases hnames : KnownNames.ofIdentifiers compiler catalog
        (classify catalog (String.ofList (form inside))) with
    | error failure => rfl
    | ok known =>
      show Option.toList (Option.map _ (known.find? _)) = _
      rw [KnownNames.find?_form_eq_none hnames hflat (hhead rfl _)]
      rfl
  | some rule =>
    rw [Engine.diagnoseLine_of_rule hfirst, Diagnostic.onLine, List.take_length]
    rfl

end TurtleAssist
