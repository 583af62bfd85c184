import Mathlib.Data.List.Basic
import TurtleAssist.Proofs.Diagnostic.InnerForm
import TurtleAssist.Proofs.Identifier.Definition
import TurtleAssist.Proofs.Identifier.FirstAppearance

/-!
# The header of a definition

A line that defines a function is recognised by its shape. The parameters stand in a form of
their own: beside the name in `(define (f x y) ...)`, and by themselves in
`(define f (x y) ...)`. This form is the *header* of the definition. Here it is read off the
captures of the match, `Recognition.header?`.

The patterns of the two rules do not say that the header is a form, they only happen to put
parentheses around what they capture. `Recognition.exists_header` takes what the rules read on
their ways and says what the header is: an innermost form of the line, whose tokens are the
parameters, with the name in front of them in the first case and with the dots that mark a variadic
tail in both.
-/

namespace TurtleAssist

open Text (IsFlat Line Span form)
open Unicode (isWhiteSpace)
open KnownNames (IsInnermost)

namespace Recognition

/-- **The header of a definition**, the form that holds the parameters. With the parameters
beside the name it reaches from the parenthesis before the name to the end of the match, and
otherwise from the parenthesis before the list of parameters to the one after it. -/
def header? (recognition : Recognition) : Option Span :=
  if recognition.rule = .procedure then
    (recognition.found.capture? "name").map fun name =>
      ⟨name.start.offset - 1, recognition.found.span.stop⟩
  else if recognition.rule = .binding then
    (recognition.found.capture? "args").map fun args => ⟨args.start.offset - 1, args.stop + 1⟩
  else none

/-- **What a header holds**: the name and the parameters, or what may stand in a list of
parameters and nothing else. -/
inductive HeaderHolds (recognition : Recognition) (inside : List Char) : Prop where
  | procedure (isProcedure : recognition.rule = .procedure) (tail : List Char)
      (inside_eq : inside = recognition.name.toList ++ tail)
      (head : ∀ c ∈ tail.head?, isWhiteSpace c = true)
      (parameters_eq : recognition.parameters = parametersIn tail)
  | binding (isBinding : recognition.rule = .binding)
      (parameters_eq : recognition.parameters = parametersIn inside)
      (chars : (∃ c ∈ inside, c.isAlpha = true) ∨ ∀ c ∈ inside, isWhiteSpace c = true ∨ c = '.')

end Recognition

namespace IdentifierRule

open Pattern Way

/-- Two rules are for functions. -/
theorem eq_of_role_eq_function {rule : IdentifierRule} (hrule : rule ∈ all)
    (hrole : rule.role = .function) : rule = procedure ∨ rule = binding := by
  revert rule
  decide +kernel

variable {place : Place} {line : Line} {found : Match}

/-- Between a place of a line and the end of a way, a form is an innermost form of the line. -/
theorem isInnermost_of_reads {start stop : Place} {before inside : List Char}
    (hplace : place ∈ placesFrom 0 line) (hbefore : place.Reads before start)
    (hform : start.Reads (form inside) stop) (hflat : IsFlat inside) :
    IsInnermost line ⟨start.offset, stop.offset⟩ inside := by
  obtain ⟨front, hline, hoffset⟩ := mem_places_iff.mp hplace
  refine ⟨front ++ before, stop.rest, ?_, hflat, ?_⟩
  · rw [hline, hbefore.1, hform.1, form]
    simp
  · have hlength : (form inside).length = inside.length + 2 := by simp [form]
    rw [hform.2, hbefore.2, hoffset, hlength, List.length_append, Nat.add_assoc _ inside.length]

/-- **The header of a procedure** has the name in front. -/
theorem exists_header_procedure (h : procedure.pattern.find? line = some found) :
    ∃ span inside, (Recognition.mk procedure found).header? = some span
      ∧ IsInnermost line span inside ∧ (Recognition.mk procedure found).HeaderHolds inside := by
  obtain ⟨place, hplace, hmatch, -⟩ := find?_eq_some_iff.mp h
  obtain ⟨way, hway, rfl⟩ := exists_way_of_matchAt? hmatch
  obtain ⟨opening, name, tail, hparts⟩ := mem_ways_procedure hway
  obtain ⟨start, hopening, hform⟩ := Place.Reads.append_iff.mp hparts.reads
  have hflat : IsFlat (name ++ tail) := hparts.isIdentifier.isFlat.append hparts.isFlat
  refine ⟨⟨start.offset, way.stop.offset⟩, name ++ tail, ?_,
    isInnermost_of_reads hplace hopening hform hflat,
    .procedure rfl tail ?_ hparts.head hparts.parameters_eq⟩
  · simp [Recognition.header?, hparts.capture?_name, nameAt, hopening.2]
  · rw [name_of_capture? hparts.capture?_name, String.toList_ofList]

/-- **The header of a binding** is the list of parameters. -/
theorem exists_header_binding (h : binding.pattern.find? line = some found) :
    ∃ span inside, (Recognition.mk binding found).header? = some span
      ∧ IsInnermost line span inside ∧ (Recognition.mk binding found).HeaderHolds inside := by
  obtain ⟨place, hplace, hmatch, -⟩ := find?_eq_some_iff.mp h
  obtain ⟨way, hway, rfl⟩ := exists_way_of_matchAt? hmatch
  obtain ⟨opening, name, space, inside, rest, hparts⟩ := mem_ways_binding hway
  obtain ⟨args, hcaptures, hlabel, -, hstart, hstop⟩ := hparts.captures
  obtain ⟨front, hline, hoffset⟩ := mem_places_iff.mp hplace
  have hother : binding ≠ procedure := by decide
  have hbefore : args.start.offset - 1 = (front ++ (opening ++ (name ++ space))).length := by
    rw [hstart, hoffset, ← List.length_append, Nat.add_sub_cancel]
  refine ⟨⟨args.start.offset - 1, args.stop + 1⟩, inside, ?_,
    ⟨front ++ (opening ++ (name ++ space)), rest, ?_, flat_of_accepts_listed hparts.listed, ?_⟩,
    .binding rfl hparts.parameters_eq (chars_of_accepts_listed hparts.listed)⟩
  · simp [Recognition.header?, Match.capture?, hcaptures, nameAt, hlabel, hother]
  · rw [hline, hparts.rest_eq, form]
    simp
  · have hstop' : args.stop + 1 = args.start.offset - 1 + inside.length + 2 := by omega
    rw [hstop', hbefore]

end IdentifierRule

/-- **A line that defines a function has a header**, which is an innermost form of the line and
holds the parameters. -/
theorem Recognition.exists_header {line : Line} {recognition : Recognition}
    (h : classifyLine line = some recognition) (hrole : recognition.rule.role = .function) :
    ∃ span inside, recognition.header? = some span ∧ IsInnermost line span inside
      ∧ recognition.HeaderHolds inside := by
  obtain ⟨hrule, hfind⟩ := find?_of_classifyLine h
  obtain ⟨rule, found⟩ := recognition
  rcases IdentifierRule.eq_of_role_eq_function hrule hrole with rfl | rfl
  · exact IdentifierRule.exists_header_procedure hfind
  · exact IdentifierRule.exists_header_binding hfind

end TurtleAssist
