import Mathlib.Data.List.Basic
import TurtleAssist.Catalog.Turtle
import TurtleAssist.Completion.Basic
import TurtleAssist.Proofs.Completion.SnippetReader
import TurtleAssist.Proofs.Identifier.FirstAppearance
import TurtleAssist.Proofs.Pattern.Form

/-!
# The calls that are inserted for functions

A function of the document is inserted as a call with a placeholder for each parameter, and its name
and its parameters come from the text of the user. An editor reads the call as it is meant if they
hold nothing that has a meaning in snippets. The names never do, because the patterns that capture
names have no use for such characters. The same is true of the parameters of a binding, but those of
a procedure may hold any characters but parentheses.

So there is a condition on the parameters (`insertText_read_iff`), and `not_read_hop` is a function
whose call is read with another parameter.
-/

namespace TurtleAssist

open Snippet (IsLiteral callPieces escapable)

/-! ## The names and parameters of a line -/

namespace Recognition

open Pattern

variable {line : Text.Line} {recognition : Recognition} {label : String} {capture : Capture}

/-- What is captured by patterns that have no use for the special characters holds none. -/
theorem not_mem_escapable_of_capture? (h : classifyLine line = some recognition)
    (hcapture : recognition.found.capture? label = some capture)
    (hbodies : ∀ body ∈ recognition.rule.pattern.bodies label,
      body.isPlaceless = true ∧ escapable.all body.avoids = true) :
    ∀ c ∈ capture.text, c ∉ escapable := by
  obtain ⟨-, hfind⟩ := find?_of_classifyLine h
  obtain ⟨body, hbody, haccepts⟩ :=
    accepts_of_capture? hfind hcapture fun body hbody => (hbodies body hbody).1
  intro c hc hspecial
  have havoids : body.avoids c = true := List.all_eq_true.mp (hbodies body hbody).2 c hspecial
  exact (within_of_avoids havoids).forall_mem haccepts c hc rfl

/-- **No name holds a special character**, be it the name of a definition or data. -/
theorem not_mem_escapable_of_mem_name (h : classifyLine line = some recognition) :
    ∀ c ∈ recognition.name.toList, c ∉ escapable := by
  obtain ⟨hrule, hfind⟩ := find?_of_classifyLine h
  obtain ⟨capture, hcapture⟩ := exists_capture?_of_find? (captures_name hrule).1 hfind
  have hbodies : ∀ rule ∈ IdentifierRule.all, ∀ body ∈ rule.pattern.bodies "name",
      body.isPlaceless = true ∧ escapable.all body.avoids = true := by
    decide +kernel
  rw [name, hcapture, String.toList_ofList]
  exact not_mem_escapable_of_capture? h hcapture (hbodies recognition.rule hrule)

/-- The parameters of a binding hold no special character either. -/
theorem not_mem_escapable_of_mem_parameters (h : classifyLine line = some recognition)
    (hrule : recognition.rule = .binding) :
    ∀ parameter ∈ recognition.parameters, ∀ c ∈ parameter.toList, c ∉ escapable := by
  have hbodies : ∀ body ∈ IdentifierRule.binding.pattern.bodies "args",
      body.isPlaceless = true ∧ escapable.all body.avoids = true := by
    decide +kernel
  unfold parameters
  cases hcapture : recognition.found.capture? "args" with
  | none => exact List.forall_mem_nil _
  | some capture =>
    intro parameter hparameter c hc
    obtain ⟨token, htoken, rfl⟩ := List.mem_map.mp (List.mem_of_mem_filter hparameter)
    rw [String.toList_ofList] at hc
    exact not_mem_escapable_of_capture? h hcapture (hrule ▸ hbodies) c
      (Text.mem_of_mem_tokens htoken hc)

end Recognition

/-! ## The functions of a document -/

section Documents

variable {catalog : Catalog} {text : String} {identifier : Identifier}

theorem not_mem_escapable_of_mem_classify (h : identifier ∈ classify catalog text) :
    ∀ c ∈ identifier.name.toList, c ∉ escapable := by
  obtain ⟨line, recognition, -, hrecognition, hname, -⟩ := exists_recognition_of_mem_classify h
  rw [← hname]
  exact Recognition.not_mem_escapable_of_mem_name hrecognition

/-- **The call that is inserted for a function is read as it is meant exactly if its parameters are
literal**: as the name after a parenthesis, then for each parameter a space and a placeholder that
shows it, numbered from one, and then the closing parenthesis. A procedure may have other
parameters, a binding may not. -/
theorem insertText_read_iff (h : identifier ∈ classify catalog text)
    (hrole : identifier.role = .function) :
    let inserted := (Entry.ofIdentifier identifier).insertText
    let meant := (callPieces identifier.name identifier.args).flatMap Snippet.Piece.marks
    (Snippet.read? inserted = some meant ↔ ∀ arg ∈ identifier.args, IsLiteral arg.toList)
      ∧ ∀ line recognition, (Text.lines text.toList)[identifier.line]? = some line →
          classifyLine line = some recognition → recognition.rule = .binding →
            Snippet.read? inserted = some meant := by
  intro inserted meant
  have hinserted : inserted = Snippet.call identifier.name identifier.args := if_pos hrole
  have hread : Snippet.read? inserted = some meant
      ↔ ∀ arg ∈ identifier.args, IsLiteral arg.toList := by
    rw [hinserted]
    exact Snippet.read?_call_iff (not_mem_escapable_of_mem_classify h)
  refine ⟨hread, fun line recognition hline hrecognition hrule => hread.mpr fun arg harg => ?_⟩
  rw [args_eq_of_mem_classify h hline hrecognition] at harg
  exact .of_forall (Recognition.not_mem_escapable_of_mem_parameters hrecognition hrule arg harg)

/-- A procedure with two parameters, and a binding with one and a variadic tail. -/
theorem insertText_read_iff_hop :
    let text := "(define (hop a b) 1)\n(define skip (c . more) (hop c 1))"
    let hop : Identifier :=
      { name := "hop", role := .function, description := Role.function.description,
        args := ["a", "b"] }
    let skip : Identifier :=
      { name := "skip", role := .function, description := Role.function.description,
        args := ["c", "more"], line := 1 }
    classify Catalog.turtle text = [hop, skip]
      ∧ Snippet.read? (Entry.ofIdentifier hop).insertText
        = some ("(hop ".toList.map .char
            ++ [.placeholder 1 "a", .char ' ', .placeholder 2 "b", .char ')'])
      ∧ Snippet.read? (Entry.ofIdentifier skip).insertText
        = some ("(skip ".toList.map .char
            ++ [.placeholder 1 "c", .char ' ', .placeholder 2 "more", .char ')']) := by
  intro text hop skip
  have hlines : Text.lines text.toList
      = ["(define (hop a b) 1)".toList, "(define skip (c . more) (hop c 1))".toList] := by
    decide +kernel
  have hclassify : classify Catalog.turtle text = [hop, skip] := by
    rw [classify_of_nodup hlines (by decide) (by decide +kernel)]
    decide +kernel
  have hhop : hop ∈ classify Catalog.turtle text := hclassify ▸ List.mem_cons_self
  have hskip : skip ∈ classify Catalog.turtle text :=
    hclassify ▸ List.mem_cons_of_mem _ List.mem_cons_self
  have hrules : (classifyLine "(define skip (c . more) (hop c 1))".toList).map Recognition.rule
      = some .binding := by
    decide +kernel
  obtain ⟨recognition, hrecognition, hrule⟩ := Option.map_eq_some_iff.mp hrules
  refine ⟨hclassify, ?_, ?_⟩
  · exact ((insertText_read_iff hhop rfl).1.mpr (by decide)).trans (by decide +kernel)
  · refine ((insertText_read_iff hskip rfl).2 _ recognition ?_ hrecognition hrule).trans
      (by decide +kernel)
    rw [hlines]
    rfl

/-- **A function whose call is read with another parameter.** The closing brace in the parameter
ends the placeholder. With a backslash in front of it, the call would be read as it is meant. -/
theorem not_read_hop :
    let text := "(define (hop a\x7db) 1)"
    let hop : Identifier :=
      { name := "hop", role := .function, description := Role.function.description,
        args := ["a\x7db"] }
    classify Catalog.turtle text = [hop]
      ∧ (Entry.ofIdentifier hop).insertText = "(hop $\x7b1:a\x7db\x7d)"
      ∧ Snippet.read? (Entry.ofIdentifier hop).insertText
        = some ("(hop ".toList.map .char ++ .placeholder 1 "a" :: "b\x7d)".toList.map .char)
      ∧ Snippet.read? (Entry.ofIdentifier hop).insertText
        ≠ some ((callPieces hop.name hop.args).flatMap Snippet.Piece.marks)
      ∧ Snippet.read? "(hop $\x7b1:a\\\x7db\x7d)"
        = some ((callPieces hop.name hop.args).flatMap Snippet.Piece.marks) := by
  intro text hop
  have hlines : Text.lines text.toList = [text.toList] := by decide +kernel
  refine ⟨?_, by decide +kernel, by decide +kernel, by decide +kernel, by decide +kernel⟩
  rw [classify_of_nodup hlines (List.nodup_singleton _) (by decide +kernel)]
  decide +kernel

end Documents

end TurtleAssist
