import Mathlib.Data.List.Basic
import Mathlib.Data.List.Infix
import TurtleAssist.Catalog.Turtle
import TurtleAssist.Proofs.Identifier.Definition
import TurtleAssist.Proofs.Identifier.FirstAppearance
import TurtleAssist.Proofs.Text.Run

/-!
# How much of a name is reported

In the language a name ends where white space, a parenthesis, a quote or a comment begins. The
classifier knows fewer characters: letters, digits and hyphens. A definition may therefore have a
name of which the classifier can read a beginning only.

For functions this is no matter, since their rules go on with white space or a parenthesis, and
where the name does not end there they do not apply. The rule for variables does not look at what
follows. So what is reported is always the beginning of the name up to the first character that
identifiers do not have (`classify_name_run`): all of it for a function, and all of it for a
variable exactly if the name is an identifier. `classify_done` is a variable that is reported with
a part of its name.
-/

namespace TurtleAssist

open Text (IsGap IsRunAt Line form)
open Unicode (isWhiteSpace)
open IdentifierRule (nameAt)

/-- A character that ends a name: white space, a parenthesis, a quote, or the semicolon of a
comment. -/
def IsDelimiter (c : Char) : Prop :=
  isWhiteSpace c = true ∨ c ∈ ['(', ')', '\'', '"', ';']

instance (c : Char) : Decidable (IsDelimiter c) :=
  inferInstanceAs (Decidable (_ ∨ _))

/-- No character of an identifier ends a name. -/
theorem not_isDelimiter_of_isNameTail {c : Char} (h : IsNameTail c) : ¬ IsDelimiter c := by
  rintro (hspace | hmem)
  · rw [isWhiteSpace_eq_false_of_isNameTail h] at hspace
    cases hspace
  · have hnone : ['(', ')', '\'', '"', ';'].all (fun x => decide (¬ IsNameTail x)) = true := by
      decide
    exact of_decide_eq_true (List.all_eq_true.mp hnone c hmem) h

/-- **A recognised definition names what stands between two places of its line**: an identifier
after the end of another token. The rules for functions end the token with the name. -/
structure NamedAt (line : Line) (recognition : Recognition) (before name after : List Char) :
    Prop where
  line_eq : line = before ++ (name ++ after)
  isIdentifier : IsIdentifier name
  captured : recognition.found.capture? "name" = some (nameAt ⟨before.length, name ++ after⟩ name)
  begins : ∀ c ∈ before.getLast?, IsDelimiter c
  ends : ∀ c ∈ after.head?, ¬ IsNameTail c
  function_ends : recognition.rule.role = .function → ∀ c ∈ after.head?, IsDelimiter c

namespace IdentifierRule

open Pattern Way

/-- Three rules are for definitions. -/
theorem eq_of_isDefinition {rule : IdentifierRule} (hrule : rule ∈ all)
    (hrole : rule.role.IsDefinition) : rule = procedure ∨ rule = binding ∨ rule = value := by
  revert rule
  decide +kernel

/-- An opening ends with white space. -/
theorem IsOpening.getLast? {opening : List Char} (h : IsOpening opening) (front : List Char) :
    ∀ c ∈ (front ++ opening).getLast?, IsDelimiter c := by
  obtain ⟨blank, gap, rfl, -, hne, hgap⟩ := h
  intro c hc
  have hsplit : front ++ '(' :: (blank ++ ("define".toList ++ gap))
      = (front ++ '(' :: (blank ++ "define".toList)) ++ gap := by
    simp
  rw [hsplit, List.getLast?_append_of_ne_nil _ hne] at hc
  exact Or.inl (hgap c (List.mem_of_getLast? hc))

/-- **A definition is named by the identifier that stands after its opening**, or after the
parenthesis behind it. -/
theorem exists_namedAt {line : Line} {recognition : Recognition}
    (h : classifyLine line = some recognition) (hrole : recognition.rule.role.IsDefinition) :
    ∃ before name after, NamedAt line recognition before name after := by
  obtain ⟨hrule, hfind⟩ := Recognition.find?_of_classifyLine h
  obtain ⟨rule, found⟩ := recognition
  obtain ⟨place, hplace, way, hprefers, rfl⟩ := exists_prefers_of_find? hfind
  obtain ⟨front, hline, hoffset⟩ := mem_places_iff.mp hplace
  rcases eq_of_isDefinition hrule hrole with rfl | rfl | rfl
  · obtain ⟨opening, name, tail, hparts⟩ := mem_ways_procedure hprefers.mem
    have hends : ∀ c ∈ (tail ++ ')' :: way.stop.rest).head?, IsDelimiter c := by
      intro c hc
      cases tail with
      | nil =>
        cases hc
        decide
      | cons x tail => exact Or.inl (hparts.head c hc)
    refine ⟨front ++ opening ++ ['('], name, tail ++ ')' :: way.stop.rest, ?_, hparts.isIdentifier,
      ?_, ?_, fun c hc htail => not_isDelimiter_of_isNameTail htail (hends c hc), fun _ => hends⟩
    · rw [hline, hparts.reads.1, form]
      simp
    · rw [hparts.capture?_name, hoffset, List.length_append, List.length_append]
      rfl
    · intro c hc
      rw [List.getLast?_append_of_ne_nil _ (List.cons_ne_nil _ _)] at hc
      cases hc
      decide
  · obtain ⟨opening, name, space, inside, rest, hparts⟩ := mem_ways_binding hprefers.mem
    have hends : ∀ c ∈ (space ++ (form inside ++ rest)).head?, IsDelimiter c :=
      fun c hc => Or.inl (hparts.isGap.head_append c hc)
    refine ⟨front ++ opening, name, space ++ (form inside ++ rest), ?_, hparts.isIdentifier, ?_,
      hparts.isOpening.getLast? front,
      fun c hc htail => not_isDelimiter_of_isNameTail htail (hends c hc), fun _ => hends⟩
    · rw [hline, hparts.rest_eq, List.append_assoc]
    · rw [hparts.capture?_name, hoffset, List.length_append]
  · obtain ⟨opening, name, hparts⟩ := prefers_value hprefers
    have hrole : value.role ≠ .function := by decide
    refine ⟨front ++ opening, name, way.stop.rest, ?_, hparts.isIdentifier, ?_,
      hparts.isOpening.getLast? front, hparts.ends, fun hfunction => absurd hfunction hrole⟩
    · rw [hline, hparts.rest_eq, List.append_assoc]
    · rw [hparts.capture?_name, hoffset, List.length_append]

end IdentifierRule

/-- **What is named is the beginning of a token**, as far as an identifier goes. -/
theorem NamedAt.exists_token {line : Line} {recognition : Recognition}
    {before name after : List Char} (h : NamedAt line recognition before name after) :
    ∃ token, IsRunAt (fun c => decide (¬ IsDelimiter c)) line before.length token
      ∧ name = token.takeWhile (fun c => decide (IsNameTail c))
      ∧ (recognition.rule.role = .function → name = token)
      ∧ (name = token ↔ IsIdentifier token) := by
  obtain ⟨others, rest, rfl, hothers, hrest⟩ :=
    Text.exists_run (fun c => decide (¬ IsDelimiter c)) after
  have hname : ∀ c ∈ name, decide (IsNameTail c) = true :=
    fun c hc => decide_eq_true (h.isIdentifier.chars c hc)
  have hends : ∀ c ∈ others.head?, decide (IsNameTail c) = false := by
    intro c hc
    refine decide_eq_false (h.ends c ?_)
    rw [List.head?_append_of_ne_nil _ (List.ne_nil_of_mem (List.mem_of_mem_head? hc))]
    exact hc
  have htaken : (name ++ others).takeWhile (fun c => decide (IsNameTail c)) = name :=
    Text.takeWhile_run_append hname hends
  refine ⟨name ++ others, ⟨before, rest, ?_, rfl, ?_, List.forall_mem_append.mpr ⟨?_, hothers⟩, ?_,
    hrest⟩, htaken.symm, fun hfunction => ?_, ?_, fun hidentifier => ?_⟩
  · rw [h.line_eq, List.append_assoc]
  · exact List.append_ne_nil_of_left_ne_nil h.isIdentifier.ne_nil _
  · exact fun c hc => decide_eq_true (not_isDelimiter_of_isNameTail (h.isIdentifier.chars c hc))
  · exact fun c hc => decide_eq_false (not_not_intro (h.begins c hc))
  · -- the character after the name of a function does not belong to the token
    cases others with
    | nil => exact (List.append_nil name).symm
    | cons x others =>
      have hx := h.function_ends hfunction x rfl
      exact absurd hx (of_decide_eq_true (hothers x List.mem_cons_self))
  · intro hsame
    exact hsame ▸ h.isIdentifier
  · refine htaken.symm.trans (List.takeWhile_eq_self_iff.mpr fun c hc => ?_)
    exact decide_eq_true (hidentifier.chars c hc)

/-- **A name is reported as far as identifiers go.** Each variable and each function of a document
is captured on its line at the beginning of a token, a stretch that ends where names of the
language end, and what is reported is this token up to the first character that identifiers do not
have. The name of a function is the whole token. The name of a variable is the whole token exactly
if the token is an identifier. -/
theorem classify_name_run {catalog : Catalog} {text : String} {identifier : Identifier}
    (h : identifier ∈ classify catalog text) (hrole : identifier.role.IsDefinition) :
    ∃ line recognition start token, (Text.lines text.toList)[identifier.line]? = some line
      ∧ classifyLine line = some recognition ∧ recognition.rule.role = identifier.role
      ∧ (recognition.found.capture? "name").map Pattern.Capture.span
        = some ⟨start, start + identifier.name.toList.length⟩
      ∧ IsRunAt (fun c => decide (¬ IsDelimiter c)) line start token
      ∧ identifier.name.toList = token.takeWhile (fun c => decide (IsNameTail c))
      ∧ (identifier.role = .function → identifier.name.toList = token)
      ∧ (identifier.name.toList = token ↔ IsIdentifier token) := by
  obtain ⟨line, recognition, hline, hrecognition, hname, hrule⟩ :=
    exists_recognition_of_mem_classify h
  obtain ⟨before, name, after, hnamed⟩ :=
    IdentifierRule.exists_namedAt hrecognition (hrule ▸ hrole)
  obtain ⟨token, hrun, htaken, hfunction, hwhole⟩ := hnamed.exists_token
  have hsame : identifier.name.toList = name := by
    rw [← hname, IdentifierRule.name_of_capture? hnamed.captured, String.toList_ofList]
  rw [hsame, ← hrule]
  refine ⟨line, recognition, before.length, token, hline, hrecognition, rfl, ?_, hrun, htaken,
    hfunction, hwhole⟩
  rw [hnamed.captured]
  rfl

/-- A function and a variable. The name of the second goes on with a question mark. -/
theorem classify_name_run_hop :
    let text := "(define (hop n) n)\n(define done? #t)"
    let lines := Text.lines text.toList
    let function : Identifier :=
      { name := "hop", role := .function, description := Role.function.description, args := ["n"] }
    let variable' : Identifier :=
      { name := "done", role := .variable, description := Role.variable.description, line := 1 }
    classify Catalog.turtle text = [function, variable']
      ∧ (∃ line recognition start token, lines[0]? = some line
        ∧ classifyLine line = some recognition ∧ recognition.rule.role = .function
        ∧ IsRunAt (fun c => decide (¬ IsDelimiter c)) line start token ∧ "hop".toList = token)
      ∧ ∃ line recognition start token, lines[1]? = some line
        ∧ classifyLine line = some recognition ∧ recognition.rule.role = .variable
        ∧ IsRunAt (fun c => decide (¬ IsDelimiter c)) line start token
        ∧ "done".toList = token.takeWhile (fun c => decide (IsNameTail c)) := by
  intro text lines function variable'
  have hlines : lines = ["(define (hop n) n)".toList, "(define done? #t)".toList] := by
    decide +kernel
  have hclassify : classify Catalog.turtle text = [function, variable'] := by
    rw [classify_of_nodup hlines (by decide +kernel) (by decide +kernel)]
    decide +kernel
  have hmem : function ∈ classify Catalog.turtle text := hclassify ▸ List.mem_cons_self
  have hmem' : variable' ∈ classify Catalog.turtle text :=
    hclassify ▸ List.mem_cons_of_mem _ List.mem_cons_self
  obtain ⟨line, recognition, start, token, hline, hrecognition, hrole, -, hrun, -, hwhole, -⟩ :=
    classify_name_run hmem (Or.inr rfl)
  obtain ⟨line', recognition', start', token', hline', hrecognition', hrole', -, hrun', htaken,
    -⟩ := classify_name_run hmem' (Or.inl rfl)
  exact ⟨hclassify,
    ⟨line, recognition, start, token, hline, hrecognition, hrole, hrun, hwhole rfl⟩,
    line', recognition', start', token', hline', hrecognition', hrole', hrun', htaken⟩

/-- **A variable that is reported with a part of its name.** The name on the line goes on with a
question mark. -/
theorem classify_done :
    let definition := "(define done? #t)".toList
    Text.lines "(define done? #t)".toList = [definition]
      ∧ classify Catalog.turtle "(define done? #t)"
        = [{ name := "done", role := .variable, description := Role.variable.description }]
      ∧ (classifyLine definition).bind (fun recognition =>
          (recognition.found.capture? "name").map Pattern.Capture.span) = some ⟨8, 12⟩
      ∧ definition[12]? = some '?' ∧ ¬ IsDelimiter '?' := by
  intro definition
  have hlines : Text.lines "(define done? #t)".toList = [definition] := by decide +kernel
  refine ⟨hlines, ?_, by decide +kernel, by decide, by decide⟩
  rw [classify_of_nodup hlines (List.nodup_singleton _) (by decide +kernel)]
  decide +kernel

end TurtleAssist
